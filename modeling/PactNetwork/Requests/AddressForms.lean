import PactNetwork.Foundation.IpText
import PactNetwork.Requests.WebhookSender

/-!
# Forms of addresses

Which texts of an address the guard of webhook targets refuses: all texts of some, and
of others only those that are spelled as the guard compares them.
-/

set_option autoImplicit false

namespace PactNetwork.Requests.WebhookSender

open IpText

/-! ## The guard on a bare text -/

def bare (ip : List Char) : List Char :=
  let opened := if ip.head? = some '[' then ip.tail else ip
  (if opened.getLast? = some ']' then opened.dropLast else opened).takeWhile (· ≠ '%')

/-- The dotted end of a text that spells a mapped address as the guard expects it. -/
def mappedQuad (text : List Char) : Option (List Nat) :=
  if "::ffff:".toList.isPrefixOf (lower text) then dotted (text.drop 7) else none

section Bare

variable {ip : String} {text : List Char} {octets : List Nat}

theorem isUnsafeIp_of_mapped (bared : bare ip.toList = text)
    (mapped : mappedQuad text = some octets) : isUnsafeIp ip = isUnsafeIpv4 octets := by
  subst bared
  unfold mappedQuad bare lower at mapped
  unfold isUnsafeIp
  dsimp only at mapped ⊢
  rw [mapped]

theorem isUnsafeIp_of_dotted (bared : bare ip.toList = text) (unmapped : mappedQuad text = none)
    (quad : dotted text = some octets) : isUnsafeIp ip = isUnsafeIpv4 octets := by
  subst bared
  unfold mappedQuad bare lower at unmapped
  unfold bare at quad
  unfold isUnsafeIp
  dsimp only at unmapped quad ⊢
  rw [unmapped, quad]

theorem isUnsafeIp_of_colon (bared : bare ip.toList = text) (unmapped : mappedQuad text = none)
    (quad : dotted text = none) (colon : ':' ∈ text) :
    isUnsafeIp ip = isUnsafeIpv6 (lower text) := by
  subst bared
  unfold mappedQuad bare lower at unmapped
  unfold bare at quad colon
  unfold isUnsafeIp bare lower
  dsimp only at unmapped quad colon ⊢
  rw [unmapped, quad, decide_eq_true colon]
  rfl

/-! ## Dotted texts -/

theorem dotted_text (quad : Ipv4) : dotted quad.text = some quad.octets := by
  have counted : quad.parts.length = 4 := rfl
  have digits : quad.parts.all (fun part => part ≠ [] && part.all Char.isDigit) = true := by
    rw [List.all_eq_true]
    intro part listed
    rw [Bool.and_eq_true, decide_eq_true_eq, List.all_eq_true]
    refine ⟨?_, fun char member => Ipv4.isDigit_of_mem_parts listed member⟩
    obtain ⟨octet, -, rfl⟩ := List.mem_map.mp listed
    exact Nat.toDigits_ne_nil
  rw [dotted, quad.splitOn_text, if_pos ⟨counted, digits⟩, Ipv4.parts, List.map_map]
  congr 1
  exact (List.map_congr_left fun octet _ => decimalValue_toDigits octet).trans (List.map_id _)

theorem chars_of_dotted (read : dotted text = some octets) :
    '.' ∈ text ∧ ∀ char ∈ text, char.isDigit = true ∨ char = '.' := by
  unfold dotted at read
  dsimp only at read
  split at read
  case isFalse => cases read
  case isTrue parts =>
    constructor
    · by_contra plain
      rw [List.splitOn_eq_singleton plain] at parts
      cases parts.1
    · intro char member
      have whole : ['.'].intercalate (text.splitOn '.') = text := List.intercalate_splitOn '.'
      rw [← whole] at member
      obtain same | ⟨part, listed, within⟩ := cases_of_mem_intercalate member
      · exact .inr same
      · have digits := List.all_eq_true.mp parts.2 part listed
        rw [Bool.and_eq_true, List.all_eq_true] at digits
        exact .inl (digits.2 char within)

theorem colon_of_dotted (read : dotted text = some octets) : ':' ∉ text := by
  intro colon
  obtain digit | dot := (chars_of_dotted read).2 ':' colon
  · cases digit
  · cases dot

theorem lower_of_dotted (read : dotted text = some octets) : lower text = text := by
  have same : ∀ char ∈ text, char.toLower = char := by
    intro char member
    obtain digit | rfl := (chars_of_dotted read).2 char member
    · exact toLower_of_isDigit digit
    · rfl
  exact (List.map_congr_left same).trans (List.map_id _)

theorem dotted_of_colon (colon : ':' ∈ text) : dotted text = none := by
  cases read : dotted text with
  | none => rfl
  | some octets => exact absurd colon (colon_of_dotted read)

end Bare

/-! ## Groups -/

def forbiddenGroup (value : Nat) : Bool :=
  (0xfc00 ≤ value && value < 0xfe00) || (0xfe80 ≤ value && value < 0xfec0) || 0xff00 ≤ value

theorem forbiddenGroup_eq_true {value : Nat} : forbiddenGroup value = true ↔
    (0xfc00 ≤ value ∧ value < 0xfe00) ∨ (0xfe80 ≤ value ∧ value < 0xfec0) ∨ 0xff00 ≤ value := by
  simp only [forbiddenGroup, Bool.or_eq_true, Bool.and_eq_true, decide_eq_true_eq, or_assoc]

def Prefixed (head : Char) (tail : List Char) : Prop :=
  ∃ kind first second rest, head = 'f' ∧ tail = kind :: first :: second :: ':' :: rest ∧
    isHex second = true ∧
      ((kind = 'c' ∨ kind = 'd' ∨ kind = 'f') ∧ isHex first = true ∨
        kind = 'e' ∧ (first = '8' ∨ first = '9' ∨ first = 'a' ∨ first = 'b'))

theorem isUnsafeIpv6_cons {head : Char} {tail : List Char} (apart : head ≠ ':') :
    isUnsafeIpv6 (head :: tail) = true ↔ Prefixed head tail := by
  have differs : ∀ rest : List Char, head :: tail ≠ ':' :: rest := fun rest same =>
    apart (List.cons.inj same).1
  have loopback : "::1".toList = [':', ':', '1'] := rfl
  have unspecified : "::".toList = [':', ':'] := rfl
  have zero : "::0".toList = [':', ':', '0'] := rfl
  unfold isUnsafeIpv6
  rw [loopback, unspecified, zero, decide_eq_false (differs _), decide_eq_false (differs _),
    decide_eq_false (differs _), Bool.or_self, Bool.or_self, Bool.false_or]
  split
  case h_1 kind first second rest same =>
    obtain ⟨rfl, rfl⟩ := List.cons.inj same
    simp only [Bool.or_eq_true, Bool.and_eq_true, decide_eq_true_eq]
    constructor
    · rintro (⟨⟨kinds, hex⟩, hex'⟩ | ⟨⟨kind', digits⟩, hex'⟩)
      · exact ⟨kind, first, second, rest, rfl, rfl, hex', .inl ⟨by tauto, hex⟩⟩
      · exact ⟨kind, first, second, rest, rfl, rfl, hex', .inr ⟨kind', by tauto⟩⟩
    · rintro ⟨kind', first', second', rest', -, same', hex', known⟩
      obtain ⟨rfl, rfl, rfl, -, rfl⟩ := same'
      tauto
  case h_2 other =>
    refine iff_of_false Bool.false_ne_true ?_
    rintro ⟨kind, first, second, rest, rfl, rfl, -⟩
    exact other kind first second rest rfl

theorem isHex_digitChar (value : Fin 16) : isHex (Nat.digitChar value) = true := by
  revert value
  decide

theorem digitChar_eq (value : Fin 16) :
    Nat.digitChar value ≠ ':' ∧ (Nat.digitChar value = 'f' ↔ (value : Nat) = 15) ∧
      (Nat.digitChar value = 'e' ↔ (value : Nat) = 14) ∧
      (Nat.digitChar value = 'd' ↔ (value : Nat) = 13) ∧
      (Nat.digitChar value = 'c' ↔ (value : Nat) = 12) ∧
      (Nat.digitChar value = '8' ↔ (value : Nat) = 8) ∧
      (Nat.digitChar value = '9' ↔ (value : Nat) = 9) ∧
      (Nat.digitChar value = 'a' ↔ (value : Nat) = 10) ∧
      (Nat.digitChar value = 'b' ↔ (value : Nat) = 11) := by
  revert value
  decide

theorem not_forbiddenGroup {value : Nat} (small : value < 4096) :
    ¬ forbiddenGroup value = true := by
  rw [forbiddenGroup_eq_true]
  omega

theorem isHex_colon : isHex ':' ≠ true := by decide

theorem prefixed_iff (a b c d : Fin 16) (rest : List Char) :
    Prefixed (Nat.digitChar a)
        (Nat.digitChar b :: Nat.digitChar c :: Nat.digitChar d :: ':' :: rest) ↔
      forbiddenGroup (Group.number [a, b, c, d]) = true := by
  have number : Group.number [a, b, c, d] =
      4096 * (a : Nat) + 256 * (b : Nat) + 16 * (c : Nat) + (d : Nat) := by
    simp only [Group.number, List.foldl_cons, List.foldl_nil]
    omega
  obtain ⟨-, headF, -⟩ := digitChar_eq a
  obtain ⟨-, kindF, kindE, kindD, kindC, -⟩ := digitChar_eq b
  obtain ⟨-, -, -, -, -, first8, first9, firstA, firstB⟩ := digitChar_eq c
  have hexA := a.isLt
  have hexB := b.isLt
  have hexC := c.isLt
  have hexD := d.isLt
  rw [forbiddenGroup_eq_true, number]
  constructor
  · rintro ⟨kind, first, second, rest', head, same, -, known⟩
    cases same
    rw [headF] at head
    rw [kindC, kindD, kindF, kindE, first8, first9, firstA, firstB] at known
    omega
  · intro range
    refine ⟨_, _, _, _, headF.mpr (by omega), rfl, isHex_digitChar d, ?_⟩
    rw [kindC, kindD, kindF, kindE, first8, first9, firstA, firstB]
    have first := isHex_digitChar c
    have kinds : ((b : Nat) = 12 ∨ (b : Nat) = 13 ∨ (b : Nat) = 15) ∨ (b : Nat) = 14 ∧
        ((c : Nat) = 8 ∨ (c : Nat) = 9 ∨ (c : Nat) = 10 ∨ (c : Nat) = 11) := by omega
    exact kinds.imp_left fun kind => ⟨kind, first⟩

theorem isUnsafeIpv6_group (group : Group) (rest : List Char) :
    isUnsafeIpv6 (lower group.text ++ ':' :: rest) = forbiddenGroup group.value := by
  obtain ⟨digits, written, short⟩ := group
  rw [Group.lower_text, Group.value, Bool.eq_iff_iff]
  cases digits with
  | nil => exact absurd rfl written
  | cons a digits =>
      rw [List.map_cons, List.map_cons, List.cons_append,
        isUnsafeIpv6_cons (digitChar_eq a.value).1]
      have hexA := a.value.isLt
      cases digits with
      | nil =>
          refine iff_of_false ?_ (not_forbiddenGroup (by simp [Group.number]; omega))
          rintro ⟨kind, first, second, rest', -, same, -, known⟩
          cases same
          simp at known
      | cons b digits =>
          have hexB := b.value.isLt
          cases digits with
          | nil =>
              refine iff_of_false ?_ (not_forbiddenGroup (by simp [Group.number]; omega))
              rintro ⟨kind, first, second, rest', -, same, -, known⟩
              cases same
              simp [isHex_colon] at known
          | cons c digits =>
              have hexC := c.value.isLt
              cases digits with
              | nil =>
                  refine iff_of_false ?_ (not_forbiddenGroup (by simp [Group.number]; omega))
                  rintro ⟨kind, first, second, rest', -, same, hex, -⟩
                  cases same
                  exact isHex_colon hex
              | cons d digits =>
                  have hexD := d.value.isLt
                  cases digits with
                  | nil => exact prefixed_iff a.value b.value c.value d.value rest
                  | cons e digits =>
                      simp only [List.length_cons] at short
                      omega

/-! ## Long texts -/

def shortTexts : List (List Char) := ["::1".toList, "::".toList, "::0".toList]

variable {spelled : Ipv6Text}

theorem groups_of_shortTexts (known : lower spelled.text ∈ shortTexts) :
    spelled.groups = Ipv6Text.loopback ∨ spelled.groups = Ipv6Text.unspecified := by
  rw [shortTexts, List.mem_cons, List.mem_cons, List.mem_singleton] at known
  obtain one | none | zero := known
  · obtain ⟨_, -, last⟩ | ⟨group, _, rfl, last⟩ := Ipv6Text.short_shape one (by decide) (by decide)
    · cases last
    · exact .inl (by rw [Ipv6Text.groups_one, @Group.value_single _ 1 last]; rfl)
  · obtain ⟨_, rfl, -⟩ | ⟨group, _, rfl, last⟩ :=
      Ipv6Text.short_shape none (by decide) (by decide)
    · exact .inr rfl
    · exact absurd last group.lower_text_ne_nil
  · obtain ⟨_, -, last⟩ | ⟨group, _, rfl, last⟩ := Ipv6Text.short_shape zero (by decide) (by decide)
    · cases last
    · exact .inr (by rw [Ipv6Text.groups_one, @Group.value_single _ 0 last]; rfl)

theorem isUnsafeIpv6_colon {tail : List Char} :
    isUnsafeIpv6 (':' :: tail) = true ↔ ':' :: tail ∈ shortTexts := by
  unfold isUnsafeIpv6
  split
  case h_1 same => cases same
  case h_2 =>
    rw [Bool.or_false, Bool.or_eq_true, Bool.or_eq_true, decide_eq_true_eq, decide_eq_true_eq,
      decide_eq_true_eq, or_assoc, shortTexts, List.mem_cons, List.mem_cons, List.mem_singleton]

theorem isUnsafeIpv6_text : isUnsafeIpv6 (lower spelled.text) = true ↔
    lower spelled.text ∈ shortTexts ∨ forbiddenGroup (spelled.groups.headD 0) = true := by
  obtain ⟨ending, short, rfl⟩ | ⟨group, rest, written, first⟩ := spelled.first_shape
  · have filled : 8 - (([] : List IpText.Group).length + ending.values.length) =
        7 - ending.values.length + 1 := by
      rw [List.length_nil] at short ⊢
      omega
    have zero : (Ipv6Text.compressed [] ending short).groups.headD 0 = 0 := by
      rw [Ipv6Text.groups, filled]
      rfl
    have written : lower (Ipv6Text.compressed [] ending short).text =
        ':' :: lower (':' :: join ending.pieces) := rfl
    rw [zero, written, isUnsafeIpv6_colon]
    exact ⟨.inl, fun known => known.resolve_right (by decide)⟩
  · have apart : lower spelled.text ∉ shortTexts := by
      intro known
      have opened : (lower spelled.text).head? = some ':' := by
        have all : ∀ text ∈ shortTexts, text.head? = some ':' := by decide
        exact all _ known
      rw [written, List.head?_append_of_ne_nil _ group.lower_text_ne_nil] at opened
      exact (Group.apart_of_mem_lower (List.mem_of_head? opened)).1 rfl
    rw [written] at apart ⊢
    rw [isUnsafeIpv6_group, List.headD_eq_head?_getD, first]
    exact ⟨.inr, fun known => known.resolve_left apart⟩

theorem mappedQuad_iff {octets : List Nat} : mappedQuad spelled.text = some octets ↔
    ∃ quad, spelled.address = .short quad ∧ octets = quad.octets ∧
      lower spelled.text = "::ffff:".toList ++ quad.text := by
  have mark : "::ffff:".toList = ':' :: ':' :: (['f', 'f', 'f', 'f'] ++ [':']) := rfl
  constructor
  · intro mapped
    unfold mappedQuad at mapped
    split at mapped
    case isFalse => cases mapped
    case isTrue marked =>
      obtain ⟨behind, split⟩ := List.isPrefixOf_iff_prefix.mp marked
      have last : behind = spelled.text.drop 7 := by
        rw [← lower_of_dotted mapped, lower, List.map_drop]
        have dropped := congrArg (List.drop 7) split
        exact dropped
      rw [last] at split
      rw [mark, List.cons_append, List.cons_append, List.append_assoc] at split
      obtain ⟨group, quad, short, rfl, ones, same⟩ :=
        Ipv6Text.quad_shape split.symm (by decide) (colon_of_dotted mapped)
          (chars_of_dotted mapped).1
      have whole : quad.text =
          (Ipv6Text.compressed [] ⟨[group], some quad⟩ short).text.drop 7 := same
      rw [← whole, dotted_text] at mapped
      refine ⟨quad, Ipv6Text.address_mapped ones, (Option.some.inj mapped).symm, ?_⟩
      rw [← split, ← whole]
      rfl
  · rintro ⟨quad, -, rfl, written⟩
    have marked : "::ffff:".toList.isPrefixOf (lower spelled.text) = true := by
      rw [written, List.isPrefixOf_iff_prefix]
      exact List.prefix_append _ _
    rw [mark, List.cons_append, List.cons_append, List.append_assoc] at written
    obtain ⟨group, quad', short, rfl, ones, same⟩ :=
      Ipv6Text.quad_shape written (by decide) (colon_of_dotted (dotted_text quad)) quad.dot_mem_text
    have whole : quad'.text = quad.text := same
    have size : (':' :: ':' :: (group.text ++ [':'])).length = 7 := by
      have four := congrArg List.length ones
      rw [lower, List.length_map] at four
      rw [List.length_cons, List.length_cons, List.length_append, four]
      rfl
    have text : (Ipv6Text.compressed [] ⟨[group], some quad'⟩ short).text =
        (':' :: ':' :: (group.text ++ [':'])) ++ quad'.text := by
      have ending : join [group.text, quad'.text] = group.text ++ [':'] ++ quad'.text := by
        rw [join, List.intercalate_cons_cons, List.intercalate_singleton]
      have spelled : (Ipv6Text.compressed [] ⟨[group], some quad'⟩ short).text =
          ':' :: ':' :: join [group.text, quad'.text] := rfl
      rw [spelled, ending]
      rfl
    rw [mappedQuad, if_pos marked, text, List.drop_left' size, whole, dotted_text]

/-! ## Literals -/

/-- An address as a URL or a resolver gives it; a long one may stand in brackets and have
a zone. -/
inductive Literal where
  | short (address : Ipv4)
  | long (spelled : Ipv6Text) (bracketed : Bool) (zone : Option (List Char))

namespace Literal

def text : Literal → List Char
  | short address => address.text
  | long spelled bracketed zone =>
      (if bracketed then ['['] else []) ++
        (spelled.text ++ (zone.elim [] fun name => '%' :: name) ++ if bracketed then [']'] else [])

def address : Literal → Address
  | short address => .short address
  | long spelled _ _ => spelled.address

/-- A text that the guard recognizes if it is one of an address that it refuses. -/
def Known : Literal → Prop
  | short _ => True
  | long spelled _ _ =>
      (∀ quad, spelled.address = .short quad →
        lower spelled.text = "::ffff:".toList ++ quad.text) ∧
      (spelled.groups = Ipv6Text.loopback ∨ spelled.groups = Ipv6Text.unspecified →
        lower spelled.text ∈ shortTexts)

end Literal

def Refused : Address → Prop
  | .short quad => isUnsafeIpv4 quad.octets = true
  | .long groups =>
      groups = Ipv6Text.loopback ∨ groups = Ipv6Text.unspecified ∨
        forbiddenGroup (groups.headD 0) = true

/-- Loopback, private, link local, shared, multicast and unspecified addresses. -/
def ListedIpv4 (a b c d : Nat) : Prop :=
  a = 127 ∨ (a = 10 ∨ (a = 172 ∧ 16 ≤ b ∧ b ≤ 31) ∨ (a = 192 ∧ b = 168)) ∨ (a = 169 ∧ b = 254) ∨
    (a = 100 ∧ 64 ≤ b ∧ b ≤ 127) ∨ (224 ≤ a ∧ a ≤ 239) ∨ (a = 0 ∧ b = 0 ∧ c = 0 ∧ d = 0)

def Listed : Address → Prop
  | .short quad => ListedIpv4 quad.first quad.second quad.third quad.fourth
  | .long groups =>
      groups = Ipv6Text.loopback ∨ groups = Ipv6Text.unspecified ∨
        forbiddenGroup (groups.headD 0) = true

theorem refused_of_listed {address : Address} (listed : Listed address) : Refused address := by
  cases address with
  | long groups => exact listed
  | short quad =>
      have ranges : ListedIpv4 quad.first quad.second quad.third quad.fourth := listed
      unfold ListedIpv4 at ranges
      show isUnsafeIpv4 [(quad.first : Nat), quad.second, quad.third, quad.fourth] = true
      unfold isUnsafeIpv4
      simp only [Bool.or_eq_true, Bool.and_eq_true, decide_eq_true_eq]
      omega

theorem takeWhile_plain {body : List Char} (plain : ∀ char ∈ body, char ∉ brackets)
    (behind : List Char) : (body ++ '%' :: behind).takeWhile (· ≠ '%') = body := by
  rw [List.takeWhile_append_of_pos, List.takeWhile_cons_of_neg (by decide), List.append_nil]
  exact fun char member => decide_eq_true fun same => plain char member (same ▸ by decide)

theorem bare_of_plain {body : List Char} (bracketed : Bool) (zone : Option (List Char))
    (written : body ≠ []) (plain : ∀ char ∈ body, char ∉ brackets) :
    bare ((if bracketed then ['['] else []) ++
      (body ++ (zone.elim [] fun name => '%' :: name) ++ if bracketed then [']'] else [])) =
      body := by
  have whole : body.takeWhile (· ≠ '%') = body :=
    List.takeWhile_eq_self_iff.mpr fun char member =>
      decide_eq_true fun same => plain char member (same ▸ by decide)
  have cut : ∀ zone : Option (List Char),
      (body ++ zone.elim [] fun name => '%' :: name).takeWhile (· ≠ '%') = body := by
    intro zone
    cases zone with
    | none => rw [Option.elim_none, List.append_nil, whole]
    | some name => exact takeWhile_plain plain name
  cases bracketed with
  | true =>
      rw [if_pos rfl, if_pos rfl, bare, List.cons_append, List.nil_append, List.head?_cons,
        if_pos rfl, List.tail_cons, List.getLast?_concat, if_pos rfl, List.dropLast_concat, cut]
  | false =>
      rw [if_neg Bool.false_ne_true, if_neg Bool.false_ne_true, List.nil_append, List.append_nil]
      have unopened : (body ++ zone.elim [] fun name => '%' :: name).head? ≠ some '[' := by
        rw [List.head?_append_of_ne_nil _ written]
        exact fun opened => plain _ (List.mem_of_head? opened) (by decide)
      rw [bare, if_neg unopened]
      split
      case isFalse => exact cut zone
      case isTrue closed =>
        cases zone with
        | none =>
            rw [Option.elim_none, List.append_nil] at closed
            exact absurd (by decide) (plain _ (List.mem_of_getLast? closed))
        | some name =>
            rw [Option.elim_some, List.dropLast_append_of_ne_nil (List.cons_ne_nil _ _)]
            cases name with
            | nil =>
                rw [Option.elim_some, List.getLast?_concat] at closed
                exact absurd closed (by decide)
            | cons char name => exact takeWhile_plain plain _

theorem special_apart {groups : List Nat}
    (special : groups = Ipv6Text.loopback ∨ groups = Ipv6Text.unspecified) :
    groups.take 6 ≠ [0, 0, 0, 0, 0, 65535] ∧ forbiddenGroup (groups.headD 0) = false := by
  obtain rfl | rfl := special
  · decide
  · decide

theorem headD_of_take {groups : List Nat} (mapped : groups.take 6 = [0, 0, 0, 0, 0, 65535]) :
    groups.headD 0 = 0 := by
  cases groups with
  | nil => rfl
  | cons first rest => exact (List.cons.inj mapped).1

theorem isUnsafeIp_long (bracketed : Bool) (zone : Option (List Char)) :
    isUnsafeIp (String.ofList (Literal.long spelled bracketed zone).text) = true ↔
      Refused spelled.address ∧ (Literal.long spelled bracketed zone).Known := by
  have bared : bare (String.ofList (Literal.long spelled bracketed zone).text).toList =
      spelled.text := by
    rw [String.toList_ofList]
    exact bare_of_plain bracketed zone (List.ne_nil_of_mem spelled.colon_mem_text)
      fun _ => Ipv6Text.plain_of_mem_text
  cases read : mappedQuad spelled.text with
  | some octets =>
      obtain ⟨quad, short, rfl, written⟩ := mappedQuad_iff.mp read
      have known : (Literal.long spelled bracketed zone).Known := by
        refine ⟨fun quad' same => ?_, fun special => ?_⟩
        · cases short.symm.trans same
          exact written
        · exact absurd (Ipv6Text.take_of_short short) (special_apart special).1
      rw [isUnsafeIp_of_mapped bared read, short]
      exact (and_iff_left known).symm
  | none =>
      have colon := spelled.colon_mem_text
      rw [isUnsafeIp_of_colon bared read (dotted_of_colon colon) colon, isUnsafeIpv6_text]
      cases found : spelled.address with
      | short quad =>
          have mapped := Ipv6Text.take_of_short found
          refine iff_of_false ?_ ?_
          · intro unsafe'
            cases unsafe' with
            | inl known =>
                exact (special_apart (groups_of_shortTexts known)).1 mapped
            | inr forbidden =>
                rw [headD_of_take mapped] at forbidden
                exact absurd forbidden (by decide)
          · intro both
            have some : mappedQuad spelled.text = some quad.octets :=
              mappedQuad_iff.mpr ⟨quad, found, rfl, both.2.1 quad found⟩
            rw [read] at some
            cases some
      | long groups =>
          cases Ipv6Text.groups_of_long found
          constructor
          · intro unsafe'
            cases unsafe' with
            | inl known =>
                refine ⟨or_assoc.mp (.inl (groups_of_shortTexts known)), ?_, fun _ => known⟩
                intro quad short
                rw [found] at short
                cases short
            | inr forbidden =>
                refine ⟨.inr (.inr forbidden), ?_, fun special => ?_⟩
                · intro quad short
                  rw [found] at short
                  cases short
                · rw [(special_apart special).2] at forbidden
                  cases forbidden
          · intro both
            obtain ⟨refused, -, known⟩ := both
            obtain special | forbidden := or_assoc.mpr refused
            · exact .inl (known special)
            · exact .inr forbidden

theorem isUnsafeIp_short (quad : Ipv4) :
    isUnsafeIp (String.ofList quad.text) = isUnsafeIpv4 quad.octets := by
  have bared : bare (String.ofList quad.text).toList = quad.text := by
    have stripped := bare_of_plain false none (List.ne_nil_of_mem quad.dot_mem_text)
      fun _ => Ipv4.plain_of_mem_text
    rw [String.toList_ofList]
    simpa using stripped
  have unmapped : mappedQuad quad.text = none := by
    unfold mappedQuad
    split
    case isFalse => rfl
    case isTrue marked =>
      obtain ⟨behind, split⟩ := List.isPrefixOf_iff_prefix.mp marked
      rw [quad.lower_text] at split
      have colon : ':' ∈ quad.text := by
        rw [← split]
        exact List.mem_append_left _ (by decide)
      exact absurd colon (colon_of_dotted (dotted_text quad))
  exact isUnsafeIp_of_dotted bared unmapped (dotted_text quad)

theorem isUnsafeIp_literal (literal : Literal) : isUnsafeIp (String.ofList literal.text) = true ↔
    Refused literal.address ∧ literal.Known := by
  cases literal with
  | short quad =>
      rw [Literal.text, isUnsafeIp_short]
      exact (and_iff_left trivial).symm
  | long spelled bracketed zone => exact isUnsafeIp_long bracketed zone

/-- A text of a listed address is refused if the guard recognizes it, and two texts of one
address are judged alike if it recognizes both or none, or does not refuse the address. -/
theorem address_forms_iff (left right : Literal) :
    (Listed left.address →
      (isUnsafeIp (String.ofList left.text) = true ↔ left.Known)) ∧
    (left.address = right.address →
      (isUnsafeIp (String.ofList left.text) = isUnsafeIp (String.ofList right.text) ↔
        (Refused left.address → (left.Known ↔ right.Known)))) := by
  constructor
  · intro listed
    rw [isUnsafeIp_literal]
    exact and_iff_right (refused_of_listed listed)
  · intro same
    rw [Bool.eq_iff_iff, isUnsafeIp_literal, isUnsafeIp_literal, ← same]
    exact and_congr_right_iff

namespace FormsDemo

/-- `[::ffff:7f00:1]`, which is how a URL spells the mapped `127.0.0.1`. -/
def hexadecimal : Literal :=
  .long
    (.compressed []
      ⟨[⟨[⟨15, false⟩, ⟨15, false⟩, ⟨15, false⟩, ⟨15, false⟩], by decide, by decide⟩,
        ⟨[⟨7, false⟩, ⟨15, false⟩, ⟨0, false⟩, ⟨0, false⟩], by decide, by decide⟩,
        ⟨[⟨1, false⟩], by decide, by decide⟩], none⟩ (by decide)) true none

/-- The two spellings of one loopback address are judged differently. -/
theorem hexadecimal_missed :
    Listed hexadecimal.address ∧ isUnsafeIp (String.ofList hexadecimal.text) = false ∧
      hexadecimal.address = (Literal.short ⟨127, 0, 0, 1⟩).address ∧
      isUnsafeIp (String.ofList (Literal.short ⟨127, 0, 0, 1⟩).text) = true := by
  have text : String.ofList hexadecimal.text = "[::ffff:7f00:1]" := by decide +kernel
  have same : hexadecimal.address = (Literal.short ⟨127, 0, 0, 1⟩).address := by decide +kernel
  refine ⟨?_, ?_, same, ?_⟩
  · rw [same]
    exact .inl rfl
  · rw [text]
    decide +kernel
  · decide +kernel

end FormsDemo

/-! ## Targets -/

theorem assertSafeWebhookUrl_literal {parser : UrlParser} {raw : String} {url : Url}
    {literal : Literal} (parsed : parser.parse raw = some url) (secure : url.protocol = "https:")
    (anonymous : url.username = "" ∧ url.password = "") (port : url.port = "" ∨ url.port = "443")
    (named : url.hostname = String.ofList literal.text) :
    assertSafeWebhookUrl parser raw = .ok url ↔ ¬ (Refused literal.address ∧ literal.Known) := by
  have shaped : assertSafeWebhookUrl parser raw =
      if isUnsafeIp url.hostname then .error (rejected "private/loopback IP literal")
      else .ok url := by
    have plain : ¬ (url.username ≠ "" ∨ url.password ≠ "") := by
      rw [anonymous.1, anonymous.2]
      simp
    have open' : ¬ (url.port ≠ "" ∧ url.port ≠ "443") := by tauto
    unfold assertSafeWebhookUrl
    rw [parsed]
    dsimp only
    rw [if_neg (not_not.mpr secure), if_neg plain, if_neg open']
  rw [shaped, named, ← isUnsafeIp_literal]
  split
  case isTrue refused =>
    refine iff_of_false ?_ (not_not.mpr refused)
    intro same
    cases same
  case isFalse passed => exact iff_of_true rfl passed

end PactNetwork.Requests.WebhookSender
