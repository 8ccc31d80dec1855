import Mathlib.Data.List.Count
import Mathlib.Data.List.Induction
import Mathlib.Data.List.Nodup
import Mathlib.Data.List.Perm.Basic

/-!
# Groups in insertion order

Items put one after another into groups by a key. The groups come out in the order
in which their keys first occur, and each holds the items of its key in their order.
-/

set_option autoImplicit false

namespace PactNetwork.Grouping

variable {α κ : Type} [DecidableEq κ] (key : α → κ)

def insert (item : α) : List (κ × List α) → List (κ × List α)
  | [] => [(key item, [item])]
  | group :: rest =>
      if group.1 = key item then (group.1, group.2 ++ [item]) :: rest
      else group :: insert item rest

def groups (items : List α) : List (κ × List α) :=
  items.foldl (fun groups item => insert key item groups) []

def partition (items : List α) : List (List α) := (groups key items).map Prod.snd

def only (wanted : κ) (items : List α) : List α := items.filter fun item => key item = wanted

variable {key} {wanted : κ} {item : α} {items front back : List α}

@[simp] theorem only_nil : only key wanted [] = [] := rfl

@[simp] theorem only_append :
    only key wanted (front ++ back) = only key wanted front ++ only key wanted back :=
  List.filter_append _ _

theorem mem_only : item ∈ only key wanted items ↔ item ∈ items ∧ key item = wanted := by
  rw [only, List.mem_filter, decide_eq_true_iff]

theorem only_of_forall (keyed : ∀ item ∈ items, key item = wanted) :
    only key wanted items = items :=
  List.filter_eq_self.mpr fun item member => decide_eq_true (keyed item member)

theorem only_eq_nil : only key wanted items = [] ↔ ∀ item ∈ items, key item ≠ wanted := by
  simp [only]

theorem only_only (other : κ) (items : List α) :
    only key wanted (only key other items) =
      if other = wanted then only key other items else [] := by
  by_cases same : other = wanted
  · rw [if_pos same]
    exact only_of_forall fun item member => (mem_only.mp member).2.trans same
  · rw [if_neg same, only_eq_nil]
    exact fun item member found => same ((mem_only.mp member).2.symm.trans found)

theorem perm_of_only_eq (same : ∀ wanted, only key wanted front = only key wanted back) :
    front.Perm back := by
  classical
  refine List.perm_iff_count.mpr fun item => ?_
  have counted : ∀ items : List α, (only key (key item) items).count item = items.count item :=
    fun _ => List.count_filter (decide_eq_true rfl)
  rw [← counted front, ← counted back, same]

/-! ## What an insertion does -/

section Insert

variable {collected : List (κ × List α)} {group : κ × List α}

theorem keys_insert : (insert key item collected).map Prod.fst =
    if key item ∈ collected.map Prod.fst then collected.map Prod.fst
    else collected.map Prod.fst ++ [key item] := by
  induction collected with
  | nil => rfl
  | cons first rest ih =>
      unfold insert
      by_cases same : first.1 = key item
      · rw [if_pos same, if_pos (by simp [same])]
        rfl
      · have differs : key item ≠ first.1 := fun equal => same equal.symm
        rw [if_neg same, List.map_cons, ih, List.map_cons]
        by_cases later : key item ∈ rest.map Prod.fst
        · rw [if_pos later, if_pos (List.mem_cons_of_mem _ later)]
        · rw [if_neg later, if_neg (List.not_mem_cons_of_ne_of_not_mem differs later)]
          rfl

theorem mem_insert (distinct : (collected.map Prod.fst).Nodup)
    (member : group ∈ insert key item collected) :
    (∃ items, (key item, items) ∈ collected ∧ group = (key item, items ++ [item])) ∨
      (group ∈ collected ∧ group.1 ≠ key item) ∨
      (key item ∉ collected.map Prod.fst ∧ group = (key item, [item])) := by
  induction collected with
  | nil => exact .inr (.inr ⟨List.not_mem_nil, List.mem_singleton.mp member⟩)
  | cons first rest ih =>
      obtain ⟨fresh, distinct⟩ := List.nodup_cons.mp distinct
      unfold insert at member
      by_cases same : first.1 = key item
      · rw [if_pos same, List.mem_cons] at member
        cases member with
        | inl extended =>
            rw [same] at extended
            exact .inl ⟨first.2, same ▸ List.mem_cons_self, extended⟩
        | inr later =>
            refine .inr (.inl ⟨List.mem_cons_of_mem _ later, fun equal => fresh ?_⟩)
            rw [same, ← equal]
            exact List.mem_map_of_mem later
      · rw [if_neg same, List.mem_cons] at member
        cases member with
        | inl here =>
            rw [here]
            exact .inr (.inl ⟨List.mem_cons_self, same⟩)
        | inr later =>
            obtain ⟨items, found, extended⟩ | ⟨found, other⟩ | ⟨absent, opened⟩ :=
              ih distinct later
            · exact .inl ⟨items, List.mem_cons_of_mem _ found, extended⟩
            · exact .inr (.inl ⟨List.mem_cons_of_mem _ found, other⟩)
            · refine .inr (.inr ⟨?_, opened⟩)
              rw [List.map_cons]
              exact List.not_mem_cons_of_ne_of_not_mem (fun equal => same equal.symm) absent

end Insert

/-! ## What is collected -/

/-- The groups of the items: one for each key that occurs, with all its items. -/
structure Collects (key : α → κ) (items : List α) (collected : List (κ × List α)) : Prop where
  distinct : (collected.map Prod.fst).Nodup
  exact : ∀ group ∈ collected, group.2 = only key group.1 items
  occurs : ∀ wanted, wanted ∈ collected.map Prod.fst ↔ wanted ∈ items.map key

theorem Collects.insert {collected : List (κ × List α)} (collects : Collects key items collected)
    (item : α) : Collects key (items ++ [item]) (insert key item collected) := by
  have absent : key item ∉ collected.map Prod.fst → only key (key item) items = [] := by
    intro fresh
    rw [only_eq_nil]
    intro other member same
    exact fresh ((collects.occurs _).mpr (same ▸ List.mem_map_of_mem member))
  have alone : only key (key item) [item] = [item] :=
    only_of_forall fun other member => by rw [List.mem_singleton.mp member]
  refine ⟨?_, ?_, ?_⟩
  · rw [keys_insert]
    split
    case isTrue => exact collects.distinct
    case isFalse fresh => exact List.nodup_append.mpr ⟨collects.distinct, List.nodup_singleton _,
      fun other member last found equal => fresh (by
        rw [← List.mem_singleton.mp found, ← equal]
        exact member)⟩
  · intro group member
    obtain ⟨old, found, rfl⟩ | ⟨found, other⟩ | ⟨fresh, rfl⟩ := mem_insert collects.distinct member
    · have before : old = only key (key item) items := collects.exact _ found
      rw [only_append, alone, ← before]
    · have none : only key group.1 [item] = [] :=
        only_eq_nil.mpr fun last included => by
          rw [List.mem_singleton.mp included]
          exact Ne.symm other
      rw [only_append, none, List.append_nil]
      exact collects.exact group found
    · rw [only_append, alone, absent fresh, List.nil_append]
  · intro wanted
    rw [keys_insert, List.map_append, List.mem_append]
    split
    case isTrue present =>
      rw [collects.occurs, List.map_singleton, List.mem_singleton]
      refine ⟨.inl, fun found => found.elim id ?_⟩
      intro last
      rw [last]
      exact (collects.occurs _).mp present
    case isFalse =>
      rw [List.mem_append, collects.occurs]
      rfl

theorem collects_groups (key : α → κ) (items : List α) : Collects key items (groups key items) := by
  induction items using List.reverseRecOn with
  | nil => exact ⟨List.nodup_nil, fun _ member => absurd member List.not_mem_nil, fun _ => .rfl⟩
  | append_singleton items item ih =>
      rw [groups, List.foldl_append]
      exact ih.insert item

/-! ## What a batch is -/

theorem mem_partition {part : List α} (member : part ∈ partition key items) :
    ∃ wanted ∈ items.map key, part = only key wanted items := by
  obtain ⟨group, found, rfl⟩ := List.mem_map.mp member
  have collects := collects_groups key items
  exact ⟨group.1, (collects.occurs _).mp (List.mem_map_of_mem found), collects.exact group found⟩

theorem keyed_of_mem_partition {part : List α} (member : part ∈ partition key items) :
    ∃ wanted, ∀ item ∈ part, key item = wanted := by
  obtain ⟨wanted, -, rfl⟩ := mem_partition member
  exact ⟨wanted, fun item included => (mem_only.mp included).2⟩

theorem ne_nil_of_mem_partition {part : List α} (member : part ∈ partition key items) :
    part ≠ [] := by
  obtain ⟨wanted, occurs, rfl⟩ := mem_partition member
  obtain ⟨item, included, same⟩ := List.mem_map.mp occurs
  exact List.ne_nil_of_mem (mem_only.mpr ⟨included, same⟩)

theorem length_of_mem_partition {part : List α} (member : part ∈ partition key items) :
    part.length ≤ items.length := by
  obtain ⟨wanted, -, rfl⟩ := mem_partition member
  exact List.length_filter_le _ _

theorem only_partition (wanted : κ) (items : List α) :
    only key wanted (partition key items).flatten = only key wanted items := by
  have parts : ∀ collected : List (κ × List α), (collected.map Prod.fst).Nodup →
      (∀ group ∈ collected, group.2 = only key group.1 items) →
      only key wanted (collected.map Prod.snd).flatten =
        if wanted ∈ collected.map Prod.fst then only key wanted items else [] := by
    intro collected
    induction collected with
    | nil => exact fun _ _ => rfl
    | cons first rest ih =>
        intro distinct exact
        obtain ⟨fresh, distinct⟩ := List.nodup_cons.mp distinct
        rw [List.map_cons, List.flatten_cons, only_append, exact first List.mem_cons_self,
          only_only, ih distinct fun group member => exact group (List.mem_cons_of_mem _ member)]
        by_cases same : first.1 = wanted
        · rw [same] at fresh
          rw [if_pos same, if_neg fresh, List.append_nil, if_pos (by simp [same]), same]
        · rw [if_neg same, List.nil_append, List.map_cons]
          by_cases later : wanted ∈ rest.map Prod.fst
          · rw [if_pos later, if_pos (List.mem_cons_of_mem _ later)]
          · have neither := List.not_mem_cons_of_ne_of_not_mem (fun equal => same equal.symm) later
            rw [if_neg later, if_neg neither]
  have collects := collects_groups key items
  rw [partition, parts _ collects.distinct collects.exact]
  by_cases occurs : wanted ∈ (groups key items).map Prod.fst
  · rw [if_pos occurs]
  · rw [if_neg occurs, eq_comm, only_eq_nil]
    intro item member same
    exact occurs ((collects.occurs _).mpr (same ▸ List.mem_map_of_mem member))

theorem partition_perm (items : List α) : (partition key items).flatten.Perm items :=
  perm_of_only_eq fun wanted => only_partition wanted items

/-! ## Items under another name -/

section Map

variable {β : Type} {image : α → β} {named : β → κ}

theorem insert_map (same : ∀ item, named (image item) = key item) (item : α)
    (collected : List (κ × List α)) :
    insert named (image item) (collected.map (Prod.map id (List.map image))) =
      (insert key item collected).map (Prod.map id (List.map image)) := by
  induction collected with
  | nil => simp [insert, same]
  | cons first rest ih =>
      simp only [List.map_cons, insert, Prod.map_fst, id_eq, same]
      by_cases here : first.1 = key item
      · simp [here]
      · simp [here, ih]

theorem partition_map (same : ∀ item, named (image item) = key item) (items : List α) :
    partition named (items.map image) = (partition key items).map (List.map image) := by
  have collected : groups named (items.map image) =
      (groups key items).map (Prod.map id (List.map image)) := by
    induction items using List.reverseRecOn with
    | nil => rfl
    | append_singleton items item ih =>
        rw [groups, groups, List.map_append, List.foldl_append, List.foldl_append]
        exact (congrArg (insert named (image item)) ih).trans (insert_map same item _)
  rw [partition, collected, partition, List.map_map, List.map_map]
  rfl

end Map

end PactNetwork.Grouping
