/-
  The compact text of a JSON tree is read back as that tree.

  * `number_text`: a literal is read back digit by digit, whatever follows it that can
    follow a value;
  * `string_text`: a string is read back whatever characters it has, be they written
    raw or as escapes;
  * `value_text`: a tree is read back, with as much fuel as twice the length of its text;
  * `parse_render`: so is the whole text, if its strings are texts.
-/
import ClassCatalog.Json.Reader
import Mathlib.Tactic.Common

namespace ClassCatalog

/-! ## Digits -/

namespace Decimal

theorem digit?_digitChar : ∀ d : Fin 10, digit? (digitChar d) = some d := by decide

theorem digits_ne_nil (n : Nat) : digits n ≠ [] := by
  rw [digits]
  split_ifs <;> simp

theorem ofDigits_concat (ds : List (Fin 10)) (d : Fin 10) :
    ofDigits (ds ++ [d]) = 10 * ofDigits ds + d.val := by
  rw [ofDigits, List.foldl_append]
  rfl

theorem ofDigits_digits (n : Nat) : ofDigits (digits n) = n := by
  induction n using digits.induct with
  | case1 n h =>
    rw [digits, if_pos h]
    simp [ofDigits, Nat.mod_eq_of_lt h]
  | case2 n h ih =>
    rw [digits, if_neg h, ofDigits_concat, ih, Fin.val_ofNat]
    omega

/-- Only nought starts with the digit nought. -/
theorem head_digits (n : Nat) : ∀ d ds, digits n = d :: ds → d.val = 0 → ds = [] := by
  induction n using digits.induct with
  | case1 n h =>
    intro d ds hd _
    rw [digits, if_pos h] at hd
    cases hd
    rfl
  | case2 n h ih =>
    intro d ds hd h0
    rw [digits, if_neg h] at hd
    cases hp : digits (n / 10) with
    | nil => exact absurd hp (digits_ne_nil _)
    | cons d' ds' =>
      rw [hp] at hd
      cases hd
      have hnil := ih _ _ hp h0
      -- a single digit nought would be the quotient
      have hval := ofDigits_digits (n / 10)
      rw [hp, hnil] at hval
      simp only [ofDigits, List.foldl_cons, List.foldl_nil] at hval
      omega

/-- The characters of a fraction, none if it has no digits. -/
def fractionText (ds : List (Fin 10)) : List Char := if ds = [] then [] else '.' :: ds.map digitChar

/-- The characters of an exponent with its mark, none if there is none. -/
def markedExponent : Option Int → List Char
  | none => []
  | some e => 'e' :: exponentText e

theorem text_eq (d : Decimal) : d.text = (if d.negative then ['-'] else []) ++
    (natText d.whole ++ (fractionText d.fraction ++ markedExponent d.exponent)) := by
  obtain ⟨negative, whole, fraction, _ | e⟩ := d <;>
    simp [text, fractionText, markedExponent]

end Decimal

namespace Json

open Decimal Reader

namespace Reader

/-- No digit stands at the front of a text. -/
def NoDigit (rest : List Char) : Prop := ∀ c cs, rest = c :: cs → digit? c = none

theorem takeDigits_map (ds : List (Fin 10)) {rest : List Char} (h : NoDigit rest) :
    takeDigits (ds.map digitChar ++ rest) = (ds, rest) := by
  induction ds with
  | nil =>
    cases rest with
    | nil => rfl
    | cons c cs => rw [List.map_nil, List.nil_append, takeDigits, h c cs rfl]
  | cons d ds ih =>
    rw [List.map_cons, List.cons_append, takeDigits, digit?_digitChar, ih]

theorem wholePart_text (n : Nat) {rest : List Char} (h : NoDigit rest) :
    wholePart (natText n ++ rest) = some (n, rest) := by
  rw [wholePart, natText, takeDigits_map _ h]
  cases hd : digits n with
  | nil => exact absurd hd (digits_ne_nil n)
  | cons d ds =>
    dsimp only
    rw [if_neg fun hz => hz.2 (head_digits n d ds hd hz.1), ← hd, ofDigits_digits]

theorem exponentDigits_text (negative : Bool) (n : Nat) {rest : List Char} (h : NoDigit rest) :
    exponentDigits negative (natText n ++ rest) =
      some (some (if negative then -(n : Int) else n), rest) := by
  rw [exponentDigits, natText, takeDigits_map _ h]
  cases hd : digits n with
  | nil => exact absurd hd (digits_ne_nil n)
  | cons d ds =>
    dsimp only
    rw [← hd, ofDigits_digits]

/-- What can follow a value in a compact text: nothing, or a character that ends it. -/
def Ends (rest : List Char) : Prop :=
  ∀ c cs, rest = c :: cs → c = ',' ∨ c = ']' ∨ c = '\x7d'

theorem ends_nil : Ends [] := nofun

theorem ends_cons {c : Char} (h : c = ',' ∨ c = ']' ∨ c = '\x7d') (cs : List Char) :
    Ends (c :: cs) := by
  intro c' cs' heq
  cases heq
  exact h

theorem Ends.noDigit {rest : List Char} (h : Ends rest) : NoDigit rest := by
  intro c cs hc
  rcases h c cs hc with rfl | rfl | rfl <;> decide

theorem exponentPart_text (e? : Option Int) {rest : List Char} (h : Ends rest) :
    exponentPart (markedExponent e? ++ rest) = some (e?, rest) := by
  cases e? with
  | none =>
    cases rest with
    | nil => rfl
    | cons c cs => rcases h c cs rfl with rfl | rfl | rfl <;> rfl
  | some e =>
    by_cases he : e < 0
    · have hs : markedExponent (some e) ++ rest = 'e' :: '-' :: (natText e.natAbs ++ rest) := by
        rw [markedExponent, exponentText, if_pos he]
        rfl
      rw [hs, exponentPart, signedExponent, exponentDigits_text true _ h.noDigit]
      simp only [if_true, Option.some.injEq, Prod.mk.injEq, and_true]
      omega
    · have hs : markedExponent (some e) ++ rest = 'e' :: '+' :: (natText e.natAbs ++ rest) := by
        rw [markedExponent, exponentText, if_neg he]
        rfl
      rw [hs, exponentPart, signedExponent, exponentDigits_text false _ h.noDigit]
      simp only [Bool.false_eq_true, if_false, Option.some.injEq, Prod.mk.injEq, and_true]
      omega

/-- Neither a digit nor a point stands before what follows a fraction. -/
theorem markedExponent_front (e? : Option Int) {rest : List Char} (h : Ends rest) {c : Char}
    {cs : List Char} (hc : markedExponent e? ++ rest = c :: cs) : digit? c = none ∧ c ≠ '.' := by
  cases e? with
  | none => rcases h c cs hc with rfl | rfl | rfl <;> decide
  | some e => cases hc; decide

theorem fractionPart_text (ds : List (Fin 10)) {rest : List Char}
    (h : ∀ {c cs}, rest = c :: cs → digit? c = none ∧ c ≠ '.') :
    fractionPart (fractionText ds ++ rest) = some (ds, rest) := by
  rw [fractionText]
  split_ifs with hds
  · subst hds
    rw [List.nil_append, fractionPart]
    exact fun cs hcs => (h hcs).2 rfl
  · rw [List.cons_append, fractionPart, takeDigits_map ds fun c cs hc => (h hc).1]
    cases ds with
    | nil => exact absurd rfl hds
    | cons d ds => rfl

theorem unsigned_text (d : Decimal) {rest : List Char} (h : Ends rest) :
    unsigned d.negative (natText d.whole ++
      (fractionText d.fraction ++ (markedExponent d.exponent ++ rest))) = some (d, rest) := by
  have hfront : NoDigit (fractionText d.fraction ++ (markedExponent d.exponent ++ rest)) := by
    intro c cs hc
    rw [fractionText] at hc
    split_ifs at hc
    · exact (markedExponent_front d.exponent h hc).1
    · cases hc
      decide
  rw [unsigned, wholePart_text _ hfront]
  simp only [Option.bind_eq_bind, Option.bind_some,
    fractionPart_text d.fraction (markedExponent_front d.exponent h),
    exponentPart_text d.exponent h]
  rfl

/-- **Numbers.**  A literal is read back. -/
theorem number_text (d : Decimal) {rest : List Char} (h : Ends rest) :
    number (d.text ++ rest) = some (d, rest) := by
  have hunsigned := unsigned_text d h
  rw [text_eq, List.append_assoc, List.append_assoc, List.append_assoc]
  cases hn : d.negative with
  | true =>
    rw [hn] at hunsigned
    exact hunsigned
  | false =>
    rw [hn] at hunsigned
    rw [if_neg Bool.false_ne_true, List.nil_append, number, hunsigned]
    -- a whole part does not start with a sign
    intro cs hcs
    cases hd : digits d.whole with
    | nil => exact digits_ne_nil _ hd
    | cons d ds =>
      rw [natText, hd, List.map_cons, List.cons_append] at hcs
      have hminus := digit?_digitChar d
      rw [(List.cons.inj hcs).1] at hminus
      cases hminus

/-! ## Strings -/

theorem hexUnit?_hexDigits : ∀ n < 0x20, (match (Text.hexDigits n).leftpad 4 '0' with
    | [a, b, c, d] => hexUnit? a b c d
    | _ => none) = some n := by
  decide

/-- The escape of a control character by its code. -/
theorem codes_unicodeEscape {n : Nat} (hn : n < 0x20) (rest : List Char) :
    codes ('\\' :: 'u' :: ((Text.hexDigits n).leftpad 4 '0' ++ rest)) =
      (codes rest).map fun p => (n :: p.1, p.2) := by
  have hunit := hexUnit?_hexDigits n hn
  split at hunit
  · rename_i a b c d hdigits
    rw [hdigits, List.cons_append, List.cons_append, List.cons_append, List.cons_append,
      List.nil_append, codes, hunit]
    cases codes rest <;> rfl
  · cases hunit

theorem codes_shortEscape {c : Char} {code : Nat} (hc : escapeCode? c = some code)
    (rest : List Char) :
    codes ('\\' :: c :: rest) = (codes rest).map fun p => (code :: p.1, p.2) := by
  rw [codes]
  · rw [hc]
    cases codes rest <;> rfl
  · rintro _ _ _ _ _ rfl
    cases hc

theorem codes_raw {c : Char} (hquote : c ≠ '"') (hslash : c ≠ '\\') (hc : ¬ c.toNat < 0x20)
    (rest : List Char) : codes (c :: rest) = (codes rest).map fun p => (c.toNat :: p.1, p.2) := by
  rw [codes]
  · rw [if_neg hc]
    cases codes rest <;> rfl
  · exact hquote
  · exact fun _ _ _ _ _ h => absurd h hslash
  · exact fun _ _ h => absurd h hslash

/-- A character is read back, be it written raw or as an escape. -/
theorem codes_escape (c : Char) (rest : List Char) :
    codes (escape c ++ rest) = (codes rest).map fun p => (c.toNat :: p.1, p.2) := by
  unfold escape
  split_ifs with h₁ h₂ h₃ h₄ h₅ h₆ h₇
  · rcases Bool.or_eq_true_iff.1 h₁ with h | h <;> rw [of_decide_eq_true h] <;>
      exact codes_shortEscape rfl rest
  · exact h₂ ▸ codes_shortEscape rfl rest
  · exact h₃ ▸ codes_shortEscape rfl rest
  · exact h₄ ▸ codes_shortEscape rfl rest
  · exact h₅ ▸ codes_shortEscape rfl rest
  · exact h₆ ▸ codes_shortEscape rfl rest
  · exact codes_unicodeEscape h₇ rest
  · simp only [Bool.or_eq_true, decide_eq_true_eq, not_or] at h₁
    exact codes_raw h₁.1 h₁.2 h₇ rest

theorem codes_flatMap (cs rest : List Char) :
    codes (cs.flatMap escape ++ '"' :: rest) = some (cs.map Char.toNat, rest) := by
  induction cs with
  | nil => rfl
  | cons c cs ih => rw [List.flatMap_cons, List.append_assoc, codes_escape, ih]; rfl

/-- Characters are no surrogates. -/
theorem characters?_map (cs : List Char) : characters? (cs.map Char.toNat) = some cs := by
  induction cs with
  | nil => rfl
  | cons c cs ih =>
    have hvalid : c.toNat < 0xd800 ∨ 0xdfff < c.toNat := by
      rcases c.valid with h | ⟨h, -⟩
      · exact Or.inl h
      · exact Or.inr h
    rw [List.map_cons, characters?.eq_def]
    dsimp only
    rw [if_neg (by omega), if_neg (by omega), ih, Option.map_some, Char.ofNat_toNat]

/-- **Strings.**  A string is read back. -/
theorem string_text (s : String) (rest : List Char) :
    string (s.toList.flatMap escape ++ '"' :: rest) = some (some s, rest) := by
  rw [string, codes_flatMap]
  dsimp only
  rw [characters?_map, Option.map_some, String.ofList_toList]

end Reader

/-! ## Values -/

mutual

/-- All strings of a tree, and the names of its members, are texts. -/
def Textual : Json → Prop
  | string text? => text?.isSome
  | array items => TextualItems items
  | object members => TextualMembers members
  | _ => True

/-- All items are textual. -/
def TextualItems : List Json → Prop
  | [] => True
  | j :: items => j.Textual ∧ TextualItems items

/-- All members are textual, and so are their names. -/
def TextualMembers : List (Option String × Json) → Prop
  | [] => True
  | (name?, j) :: members => name?.isSome ∧ j.Textual ∧ TextualMembers members

end

namespace Reader

/-- What can stand at the front of a value. -/
def Starts (c : Char) : Prop := isBlank c = false ∧ c ≠ ']' ∧ c ≠ '\x7d'

theorem digitChar_starts : ∀ d : Fin 10, Starts (digitChar d) := by
  unfold Starts
  decide

/-- What stands at the front of a literal. -/
theorem number_front (d : Decimal) :
    ∃ c cs, d.text = c :: cs ∧ (c = '-' ∨ ∃ i, c = digitChar i) := by
  rw [text_eq]
  cases d.negative with
  | true => exact ⟨_, _, rfl, Or.inl rfl⟩
  | false =>
    cases hd : digits d.whole with
    | nil => exact absurd hd (digits_ne_nil _)
    | cons i is =>
      rw [natText, hd]
      exact ⟨_, _, rfl, Or.inr ⟨i, rfl⟩⟩

theorem text_front (j : Json) : ∃ c cs, j.text = c :: cs ∧ Starts c := by
  cases j with
  | number d =>
    obtain ⟨c, cs, hc, h⟩ := number_front d
    refine ⟨c, cs, by rw [text, hc], ?_⟩
    rcases h with rfl | ⟨i, rfl⟩
    · exact ⟨rfl, by decide, by decide⟩
    · exact digitChar_starts i
  | bool b => cases b <;> exact ⟨_, _, rfl, rfl, by decide, by decide⟩
  | null | string | array | object => exact ⟨_, _, rfl, rfl, by decide, by decide⟩

theorem skipBlanks_cons {c : Char} (h : isBlank c = false) (cs : List Char) :
    skipBlanks (c :: cs) = c :: cs := by
  rw [skipBlanks, List.dropWhile_cons_of_neg (by simp [h])]

theorem items_front (j : Json) (items : List Json) :
    ∃ c cs, itemsText (j :: items) = c :: cs ∧ Starts c := by
  obtain ⟨c, cs, hc, h⟩ := text_front j
  cases items with
  | nil => exact ⟨c, cs, by rw [itemsText, hc], h⟩
  | cons j' items => exact ⟨c, _, by rw [itemsText, hc, List.cons_append]; exact nofun, h⟩

theorem members_front (m : Option String × Json) (members : List (Option String × Json)) :
    ∃ cs, membersText (m :: members) = '"' :: cs := by
  cases members <;> exact ⟨_, rfl⟩

/-! ### One step of the reader -/

section

variable {fuel : Nat} {c : Char} {cs rest rest' : List Char} {j : Json} {name? : Option String}

theorem value_string (fuel : Nat) (cs : List Char) :
    value (fuel + 1) ('"' :: cs) = (string cs).map fun (s, rest) => (.string s, rest) :=
  rfl

theorem value_array (h : Starts c) (fuel : Nat) (cs : List Char) :
    value (fuel + 1) ('[' :: c :: cs) =
      (items fuel (c :: cs)).map fun (js, rest) => (.array js, rest) := by
  have hopen : isBlank '[' = false := rfl
  simp only [value, skipBlanks_cons hopen, skipBlanks_cons h.1]
  split
  · rename_i heq
    exact absurd (List.cons.inj heq).1 h.2.1
  · rfl

theorem value_object (h : Starts c) (fuel : Nat) (cs : List Char) :
    value (fuel + 1) ('\x7b' :: c :: cs) =
      (members fuel (c :: cs)).map fun (ms, rest) => (.object ms, rest) := by
  have hopen : isBlank '\x7b' = false := rfl
  simp only [value, skipBlanks_cons hopen, skipBlanks_cons h.1]
  split
  · rename_i heq
    exact absurd (List.cons.inj heq).1 h.2.2
  · rfl

theorem value_number (d : Decimal) (fuel : Nat) (h : Ends rest) :
    value (fuel + 1) (d.text ++ rest) = some (.number d, rest) := by
  have hnumber := number_text d h
  obtain ⟨c, cs, hc, hfront⟩ := number_front d
  have hblank : isBlank c = false := by
    rcases hfront with rfl | ⟨i, rfl⟩
    · rfl
    · exact (digitChar_starts i).1
  rw [hc, List.cons_append] at hnumber ⊢
  rw [value, skipBlanks_cons hblank]
  split
  case h_7 => rw [hnumber]; rfl
  -- no other value starts as a literal does
  all_goals
    rename_i heq
    rw [(List.cons.inj heq).1] at hfront
    exact absurd hfront (by decide)

theorem items_last (h : value fuel cs = some (j, ']' :: rest)) :
    items (fuel + 1) cs = some ([j], rest) := by
  rw [items, h]
  rfl

theorem items_more (h : value fuel cs = some (j, ',' :: rest)) :
    items (fuel + 1) cs = (items fuel rest).map fun (js, rest) => (j :: js, rest) := by
  rw [items, h]
  rfl

theorem members_last (hs : string cs = some (name?, ':' :: rest))
    (hv : value fuel rest = some (j, '\x7d' :: rest')) :
    members (fuel + 1) ('"' :: cs) = some ([(name?, j)], rest') := by
  rw [members, skipBlanks_cons rfl]
  simp only [hs, skipBlanks_cons (c := ':') rfl, hv]
  rfl

theorem members_more (hs : string cs = some (name?, ':' :: rest))
    (hv : value fuel rest = some (j, ',' :: rest')) :
    members (fuel + 1) ('"' :: cs) =
      (members fuel rest').map fun (ms, rest) => ((name?, j) :: ms, rest) := by
  rw [members, skipBlanks_cons rfl]
  simp only [hs, skipBlanks_cons (c := ':') rfl, hv]
  rfl

end

/-! ### Whole trees -/

theorem stringText_append (s : String) (rest : List Char) :
    stringText s ++ rest = '"' :: (s.toList.flatMap escape ++ '"' :: rest) := by
  simp [stringText]

theorem text_array (items : List Json) (rest : List Char) :
    text (.array items) ++ rest = '[' :: (itemsText items ++ ']' :: rest) := by
  simp [text]

theorem text_object (members : List (Option String × Json)) (rest : List Char) :
    text (.object members) ++ rest = '\x7b' :: (membersText members ++ '\x7d' :: rest) := by
  simp [text]

theorem length_text_pos (j : Json) : 0 < j.text.length := by
  obtain ⟨c, cs, hc, -⟩ := text_front j
  rw [hc]
  exact Nat.succ_pos _

mutual

/-- **Values.**  A tree is read back, with fuel for twice the length of its text. -/
theorem value_text (j : Json) (fuel : Nat) (rest : List Char) (hj : j.Textual) (h : Ends rest)
    (hf : 2 * j.text.length ≤ fuel + 1) : value fuel (j.text ++ rest) = some (j, rest) := by
  have hpos := length_text_pos j
  obtain ⟨fuel, rfl⟩ : ∃ n, fuel = n + 1 := ⟨fuel - 1, by omega⟩
  match j with
  | .null => rfl
  | .bool true => rfl
  | .bool false => rfl
  | .number d => exact value_number d fuel h
  | .string none => cases hj
  | .string (some s) =>
    rw [text, Option.getD_some, stringText_append, value_string, string_text]
    rfl
  | .array [] => rfl
  | .array (j :: items) =>
    rw [text, List.length_append, List.length_cons, List.length_singleton] at hf
    have hitems := items_text (j :: items) (List.cons_ne_nil _ _) fuel rest hj (by omega)
    obtain ⟨c, cs, hc, hstart⟩ := items_front j items
    rw [text_array, hc, List.cons_append, value_array hstart, ← List.cons_append, ← hc, hitems]
    rfl
  | .object [] => rfl
  | .object (m :: members) =>
    rw [text, List.length_append, List.length_cons, List.length_singleton] at hf
    have hmembers := members_text (m :: members) (List.cons_ne_nil _ _) fuel rest hj (by omega)
    obtain ⟨cs, hc⟩ := members_front m members
    rw [text_object, hc, List.cons_append, value_object ⟨rfl, by decide, by decide⟩,
      ← List.cons_append, ← hc, hmembers]
    rfl

theorem items_text (items : List Json) (hne : items ≠ []) (fuel : Nat) (rest : List Char)
    (hj : TextualItems items) (hf : 2 * (itemsText items).length ≤ fuel) :
    Reader.items fuel (itemsText items ++ ']' :: rest) = some (items, rest) := by
  match items with
  | [] => exact absurd rfl hne
  | [j] =>
    have hpos := length_text_pos j
    rw [itemsText] at hf ⊢
    obtain ⟨fuel, rfl⟩ : ∃ n, fuel = n + 1 := ⟨fuel - 1, by omega⟩
    exact items_last (value_text j fuel _ hj.1 (ends_cons (by decide) _) (by omega))
  | j :: j' :: items =>
    have htext : itemsText (j :: j' :: items) = j.text ++ ',' :: itemsText (j' :: items) := rfl
    rw [htext, List.length_append, List.length_cons] at hf
    obtain ⟨fuel, rfl⟩ : ∃ n, fuel = n + 1 := ⟨fuel - 1, by omega⟩
    rw [htext, List.append_assoc, List.cons_append,
      items_more (value_text j fuel _ hj.1 (ends_cons (by decide) _) (by omega)),
      items_text (j' :: items) (List.cons_ne_nil _ _) fuel rest hj.2 (by omega)]
    rfl

theorem members_text (members : List (Option String × Json)) (hne : members ≠ []) (fuel : Nat)
    (rest : List Char) (hj : TextualMembers members)
    (hf : 2 * (membersText members).length ≤ fuel) :
    Reader.members fuel (membersText members ++ '\x7d' :: rest) = some (members, rest) := by
  match members with
  | [] => exact absurd rfl hne
  | [(none, j)] => cases hj.1
  | (none, j) :: m :: members => cases hj.1
  | [(some name, j)] =>
    rw [membersText, List.length_append, List.length_cons] at hf
    obtain ⟨fuel, rfl⟩ : ∃ n, fuel = n + 1 := ⟨fuel - 1, by omega⟩
    rw [membersText, Option.getD_some, List.append_assoc, stringText_append, List.cons_append]
    exact members_last (string_text name _)
      (value_text j fuel _ hj.2.1 (ends_cons (by decide) _) (by omega))
  | (some name, j) :: m :: members =>
    have htext : membersText ((some name, j) :: m :: members) =
        stringText name ++ ':' :: j.text ++ ',' :: membersText (m :: members) := rfl
    rw [htext, List.length_append, List.length_append, List.length_cons, List.length_cons] at hf
    obtain ⟨fuel, rfl⟩ : ∃ n, fuel = n + 1 := ⟨fuel - 1, by omega⟩
    rw [htext, List.append_assoc, List.append_assoc, stringText_append, List.cons_append,
      List.cons_append, members_more (string_text name _)
        (value_text j fuel _ hj.2.1 (ends_cons (by decide) _) (by omega)),
      members_text (m :: members) (List.cons_ne_nil _ _) fuel rest hj.2.2 (by omega)]
    rfl

end

end Reader

/-- **Texts.**  A tree whose strings are texts is the tree of its compact text. -/
theorem parse_render {j : Json} (hj : j.Textual) : parse j.render = some j := by
  have h := Reader.value_text j (2 * j.text.length + 2) [] hj Reader.ends_nil (by omega)
  rw [List.append_nil] at h
  rw [parse, render, String.toList_ofList, h]
  rfl

end Json

end ClassCatalog
