/-
  Reading JSON texts.

  The grammar is strict: no leading zeros, no trailing commas, no control
  characters in strings, nothing but blanks around the value.

  * `value`, `items` and `members` read from the front of a text and give the
    rest; their fuel bounds the number of steps that take no character, and
    twice the length of the text is enough;
  * `parse` reads a whole text.
-/
import ClassCatalog.Json.Basic

namespace ClassCatalog.Json

namespace Reader

/-- The blanks of JSON. -/
def isBlank (c : Char) : Bool := c = ' ' || c = '\n' || c = '\r' || c = '\t'

/-- The text after the blanks at its front. -/
def skipBlanks (cs : List Char) : List Char := cs.dropWhile isBlank

/-! ## Numbers -/

/-- The digits at the front of a text, and the rest. -/
def takeDigits : List Char → List (Fin 10) × List Char
  | [] => ([], [])
  | c :: cs =>
    match Decimal.digit? c with
    | some d =>
      let (ds, rest) := takeDigits cs
      (d :: ds, rest)
    | none => ([], c :: cs)

/-- Reads a whole part: digits without a leading zero, or `0`. -/
def wholePart (cs : List Char) : Option (Nat × List Char) :=
  match takeDigits cs with
  | ([], _) => none
  | (d :: ds, rest) => if d.val = 0 ∧ ds ≠ [] then none else some (Decimal.ofDigits (d :: ds), rest)

/-- Reads a fraction, if there is one. -/
def fractionPart : List Char → Option (List (Fin 10) × List Char)
  | '.' :: cs =>
    match takeDigits cs with
    | ([], _) => none
    | (ds, rest) => some (ds, rest)
  | cs => some ([], cs)

/-- Reads the digits of an exponent. -/
def exponentDigits (negative : Bool) (cs : List Char) : Option (Option Int × List Char) :=
  match takeDigits cs with
  | ([], _) => none
  | (ds, rest) =>
    let e : Int := Decimal.ofDigits ds
    some (some (if negative then -e else e), rest)

/-- Reads the digits of an exponent with an optional sign. -/
def signedExponent : List Char → Option (Option Int × List Char)
  | '+' :: cs => exponentDigits false cs
  | '-' :: cs => exponentDigits true cs
  | cs => exponentDigits false cs

/-- Reads an exponent, if there is one. -/
def exponentPart : List Char → Option (Option Int × List Char)
  | 'e' :: cs | 'E' :: cs => signedExponent cs
  | cs => some (none, cs)

/-- Reads a number after its sign. -/
def unsigned (negative : Bool) (cs : List Char) : Option (Decimal × List Char) := do
  let (whole, cs) ← wholePart cs
  let (fraction, cs) ← fractionPart cs
  let (exponent, cs) ← exponentPart cs
  return (⟨negative, whole, fraction, exponent⟩, cs)

/-- Reads a number. -/
def number : List Char → Option (Decimal × List Char)
  | '-' :: cs => unsigned true cs
  | cs => unsigned false cs

/-! ## Strings -/

/-- The value of a hexadecimal digit. -/
def hexValue? (c : Char) : Option Nat :=
  if '0' ≤ c ∧ c ≤ '9' then some (c.toNat - 48)
  else if 'a' ≤ c ∧ c ≤ 'f' then some (c.toNat - 87)
  else if 'A' ≤ c ∧ c ≤ 'F' then some (c.toNat - 55)
  else none

/-- The code unit of four hexadecimal digits. -/
def hexUnit? (a b c d : Char) : Option Nat := do
  return (((← hexValue? a) * 16 + (← hexValue? b)) * 16 + (← hexValue? c)) * 16 + (← hexValue? d)

/-- The code that a one-character escape stands for. -/
def escapeCode? : Char → Option Nat
  | '"' => some 0x22
  | '\\' => some 0x5c
  | '/' => some 0x2f
  | 'b' => some 0x08
  | 'f' => some 0x0c
  | 'n' => some 0x0a
  | 'r' => some 0x0d
  | 't' => some 0x09
  | _ => none

/-- Reads the codes of a string up to its closing quote.  Only an escape gives
    the code of a surrogate. -/
def codes : List Char → Option (List Nat × List Char)
  | [] => none
  | '"' :: rest => some ([], rest)
  | '\\' :: 'u' :: a :: b :: c :: d :: rest =>
    match hexUnit? a b c d, codes rest with
    | some code, some (cs, rest) => some (code :: cs, rest)
    | _, _ => none
  | '\\' :: c :: rest =>
    match escapeCode? c, codes rest with
    | some code, some (cs, rest) => some (code :: cs, rest)
    | _, _ => none
  | c :: rest =>
    if c.toNat < 0x20 then none
    else
      match codes rest with
      | some (cs, rest) => some (c.toNat :: cs, rest)
      | none => none

/-- The characters that codes denote: a pair of surrogates is one character,
    half of a pair is none. -/
def characters? : List Nat → Option (List Char)
  | [] => some []
  | code :: codes =>
    if 0xd800 ≤ code ∧ code < 0xdc00 then
      match codes with
      | low :: codes =>
        if 0xdc00 ≤ low ∧ low < 0xe000 then
          (characters? codes).map
            (Char.ofNat (0x10000 + (code - 0xd800) * 0x400 + (low - 0xdc00)) :: ·)
        else none
      | [] => none
    else if 0xdc00 ≤ code ∧ code < 0xe000 then none
    else (characters? codes).map (Char.ofNat code :: ·)

/-- Reads a string after its opening quote. -/
def string (cs : List Char) : Option (Option String × List Char) :=
  match codes cs with
  | some (codes, rest) => some ((characters? codes).map String.ofList, rest)
  | none => none

/-! ## Values -/

mutual

/-- Reads a value. -/
def value : Nat → List Char → Option (Json × List Char)
  | 0, _ => none
  | fuel + 1, cs =>
    match skipBlanks cs with
    | 'n' :: 'u' :: 'l' :: 'l' :: rest => some (.null, rest)
    | 't' :: 'r' :: 'u' :: 'e' :: rest => some (.bool true, rest)
    | 'f' :: 'a' :: 'l' :: 's' :: 'e' :: rest => some (.bool false, rest)
    | '"' :: rest => (string rest).map fun (s, rest) => (.string s, rest)
    | '[' :: rest =>
      match skipBlanks rest with
      | ']' :: rest => some (.array [], rest)
      | rest => (items fuel rest).map fun (js, rest) => (.array js, rest)
    | '\x7b' :: rest =>
      match skipBlanks rest with
      | '\x7d' :: rest => some (.object [], rest)
      | rest => (members fuel rest).map fun (ms, rest) => (.object ms, rest)
    | rest => (number rest).map fun (d, rest) => (.number d, rest)

/-- Reads the items of an array up to its closing bracket. -/
def items : Nat → List Char → Option (List Json × List Char)
  | 0, _ => none
  | fuel + 1, cs =>
    match value fuel cs with
    | none => none
    | some (j, cs) =>
      match skipBlanks cs with
      | ']' :: rest => some ([j], rest)
      | ',' :: rest => (items fuel rest).map fun (js, rest) => (j :: js, rest)
      | _ => none

/-- Reads the members of an object up to its closing brace. -/
def members : Nat → List Char → Option (List (Option String × Json) × List Char)
  | 0, _ => none
  | fuel + 1, cs =>
    match skipBlanks cs with
    | '"' :: cs =>
      match string cs with
      | none => none
      | some (name?, cs) =>
        match skipBlanks cs with
        | ':' :: cs =>
          match value fuel cs with
          | none => none
          | some (j, cs) =>
            match skipBlanks cs with
            | '\x7d' :: rest => some ([(name?, j)], rest)
            | ',' :: rest => (members fuel rest).map fun (ms, rest) => ((name?, j) :: ms, rest)
            | _ => none
        | _ => none
    | _ => none

end

end Reader

/-- The tree of a text. -/
def parse (s : String) : Option Json :=
  let cs := s.toList
  match Reader.value (2 * cs.length + 2) cs with
  | some (j, rest) => if Reader.skipBlanks rest = [] then some j else none
  | none => none

end ClassCatalog.Json
