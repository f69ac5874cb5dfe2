import LedBoard.Json.Number

/-!
# Reading records from JSON

A record is read from a JSON text in one pass (`readRecord`): from an object with the keys of
its fields, or from an array of its fields in their order. Unknown keys are skipped, a known key
must not come twice, and a field that does not come keeps its default. The first problem met,
from left to right, is the result.

A record type is described by its name and its fields (`Field`), each of which reads a value and
says how to put it into the record.
-/

namespace LedBoard.Json

/-- What reads a value off the front of a text. -/
abbrev Reader (α : Type) := List Char → Except Problem (α × List Char)

/-! ## Skipping values -/

/-- Skips a word, a string or a number. -/
def skipScalar (s : List Char) : Except Problem (List Char) :=
  match s with
  | [] => .error (.ended .value)
  | 'n' :: r => readWord ['u', 'l', 'l'] r
  | 't' :: r => readWord ['r', 'u', 'e'] r
  | 'f' :: r => readWord ['a', 'l', 's', 'e'] r
  | '"' :: r => (readString false r).map fun (_, rest) => rest.val
  | '-' :: r => skipNumber r
  | c :: r => if c.isDigit then skipNumber (c :: r) else .error .expectedValue

/-- What a value stands in. -/
inductive Enclosure
  | list
  | object
  deriving DecidableEq, Repr

/-- The character that closes it. -/
def Enclosure.closer : Enclosure → Char
  | .list => ']'
  | .object => '}'

/-- Where the skipping of a value stands. -/
inductive SkipState
  /-- Before a value. -/
  | value
  /-- Behind an opening bracket. -/
  | opened
  /-- Before a key. -/
  | key
  /-- Behind a value. -/
  | after

/-- Skips the rest of a value whose open enclosures are given, the innermost first. Every step
    takes a character, or comes before one that does: `fuel` is twice the length of the text. -/
def skipRest : Nat → SkipState → List Enclosure → List Char → Except Problem (List Char)
  | 0, _, _, _ => .error (.ended .value)
  | fuel + 1, .value, enclosing, s =>
    match skipBlanks s with
    | '[' :: r => skipRest fuel .opened (.list :: enclosing) r
    | '\x7b' :: r => skipRest fuel .opened (.object :: enclosing) r
    | r => do skipRest fuel .after enclosing (← skipScalar r)
  | _ + 1, .after, [], s => .ok s
  | _ + 1, .opened, [], s => .ok s
  | _ + 1, .key, [], s => .ok s
  | fuel + 1, .opened, e :: enclosing, s =>
    match skipBlanks s with
    | [] => .error (.ended (if e = .list then .list else .object))
    | c :: r =>
      if c = e.closer then skipRest fuel .after enclosing r
      else skipRest fuel (if e = .list then .value else .key) (e :: enclosing) (c :: r)
  | fuel + 1, .after, e :: enclosing, s =>
    match skipBlanks s with
    | [] => .error (.ended (if e = .list then .list else .object))
    | c :: r =>
      if c = e.closer then skipRest fuel .after enclosing r
      else if c = ',' then skipRest fuel (if e = .list then .value else .key) (e :: enclosing) r
      else .error (if e = .list then .expectedCommaOrBracket else .expectedCommaOrBrace)
  | fuel + 1, .key, e :: enclosing, s =>
    match skipBlanks s with
    | [] => .error (.ended .object)
    | '"' :: r => do
      let (_, r) ← readString false r
      match skipBlanks r.val with
      | [] => .error (.ended .object)
      | ':' :: r => skipRest fuel .value (e :: enclosing) r
      | _ => .error .expectedColon
    | _ => .error .keyNotString

/-- Skips a value. -/
def skipValue (s : List Char) : Except Problem (List Char) :=
  skipRest (2 * s.length + 2) .value [] s

/-! ## Values of one type -/

/-- The problem of a value of a wrong type: what it is, unless it is broken itself. -/
def wrongType {α : Type} (expected : String) : Reader α
  | [] => .error (.ended .value)
  | 'n' :: r => do
    let _ ← readWord ['u', 'l', 'l'] r
    throw (.wrongType .null expected)
  | 't' :: r => do
    let _ ← readWord ['r', 'u', 'e'] r
    throw (.wrongType (.bool true) expected)
  | 'f' :: r => do
    let _ ← readWord ['a', 'l', 's', 'e'] r
    throw (.wrongType (.bool false) expected)
  | '"' :: r => do
    let (text, _) ← readString true r
    throw (.wrongType (.string (String.ofList text)) expected)
  | '[' :: _ => .error (.wrongType .sequence expected)
  | '\x7b' :: _ => .error (.wrongType .map expected)
  | c :: r => do
    let (n, _) ← if c = '-' then readNumber true r
      else if c.isDigit then readNumber false (c :: r)
      else throw .expectedValue
    match n with
    | .integer n => throw (.wrongType (.integer n) expected)
    | .float x => throw (.wrongType (.float x) expected)

/-- Reads a truth value. -/
def readBool : Reader Bool := fun s =>
  match skipBlanks s with
  | 't' :: r => (readWord ['r', 'u', 'e'] r).map (true, ·)
  | 'f' :: r => (readWord ['a', 'l', 's', 'e'] r).map (false, ·)
  | r => wrongType "a boolean" r

/-- Reads a number. -/
def readNumeric (expected : String) : Reader Number := fun s =>
  match skipBlanks s with
  | '-' :: r => readNumber true r
  | c :: r => if c.isDigit then readNumber false (c :: r) else wrongType expected (c :: r)
  | [] => .error (.ended .value)

/-- Reads a natural below `bound`. -/
def readNatural (bound : Nat) (expected : String) : Reader Nat := fun s => do
  let (n, r) ← readNumeric expected s
  match n with
  | .integer n =>
    if 0 ≤ n && n < bound then return (n.toNat, r)
    else throw (.wrongValue (.integer n) expected)
  | .float x => throw (.wrongType (.float x) expected)

/-- Reads an integer of 64 bits without a sign. -/
def readUInt64 : Reader UInt64 := fun s =>
  (readNatural (Nat.pow 2 64) "u64" s).map fun (n, r) => (UInt64.ofNat n, r)

/-- Reads an integer of 32 bits without a sign. -/
def readUInt32 : Reader UInt32 := fun s =>
  (readNatural (Nat.pow 2 32) "u32" s).map fun (n, r) => (UInt32.ofNat n, r)

/-- Reads a number as a floating-point number. -/
def readFloat : Reader Binary64.Finite := fun s => do
  let (n, r) ← readNumeric "f64" s
  match n with
  | .float x => return (x, r)
  | .integer n =>
    match Binary64.Finite.ofNat (n < 0) n.natAbs with
    | some x => return (x, r)
    | none => throw .numberOutOfRange

/-- Reads the colon behind a key. -/
def readColon (s : List Char) : Except Problem (List Char) :=
  match skipBlanks s with
  | ':' :: r => .ok r
  | [] => .error (.ended .object)
  | _ => .error .expectedColon

/-- Reads the name of one of the `known` variants from behind its quote. -/
def readVariantName (known : List String) : Reader String := fun s => do
  let (text, r) ← readString true s
  let name := String.ofList text
  if known.contains name then return (name, r.val) else throw (.unknownVariant name known)

/-- Reads the name of one of the `known` variants as the first key of an object. -/
def readVariantKey (known : List String) : Reader String := fun s =>
  match skipBlanks s with
  | [] => .error (.ended .object)
  | '"' :: r => readVariantName known r
  | '\x7d' :: _ => .error .expectedValue
  | _ => .error .keyNotString

/-- Reads null. -/
def readNull : Reader Unit := fun s =>
  match skipBlanks s with
  | 'n' :: r => (readWord ['u', 'l', 'l'] r).map ((), ·)
  | r => wrongType "unit" r

/-- Reads one of the `known` variants: its name, or an object with its name as the only key and
    the value null. -/
def readVariant (known : List String) : Reader String := fun s =>
  match skipBlanks s with
  | [] => .error (.ended .value)
  | '"' :: r => readVariantName known r
  | '\x7b' :: r => do
    let (name, r) ← readVariantKey known r
    let (_, r) ← readNull (← readColon r)
    match skipBlanks r with
    | [] => throw (.ended .object)
    | '\x7d' :: r => return (name, r)
    | _ => throw .expectedValue
  | _ => .error .expectedValue

/-! ## Records -/

/-- A field of a record type. -/
structure Field (ρ : Type) where
  key : String
  /-- Reads a value of the field, and says how to put it into a record. -/
  read : Reader (ρ → ρ)

/-- A field from a reader of its values and from how to put a value into a record. -/
def Field.of {ρ α : Type} (key : String) (read : Reader α) (put : α → ρ → ρ) : Field ρ :=
  ⟨key, fun s => (read s).map fun (a, r) => (put a, r)⟩

variable {ρ : Type}

/-- Reads the elements of an array of fields from behind its bracket. -/
def readElements : List (Field ρ) → (first : Bool) → ρ → Reader ρ
  | [], _, record, s =>
    match skipBlanks s with
    | ']' :: r => .ok (record, r)
    | ',' :: r =>
      match skipBlanks r with
      | ']' :: _ => .error .trailingComma
      | _ => .error .trailingCharacters
    | [] => .error (.ended .list)
    | _ => .error .trailingCharacters
  | field :: fields, first, record, s =>
    match skipBlanks s with
    | [] => .error (.ended .list)
    | ']' :: r => .ok (record, r)
    | c :: r => do
      let element ←
        if first then pure (c :: r)
        else if c = ',' then
          match skipBlanks r with
          | [] => throw (.ended .value)
          | ']' :: _ => throw .trailingComma
          | r => pure r
        else throw .expectedCommaOrBracket
      let (put, rest) ← field.read element
      readElements fields false (put record) rest

/-- Reads the members of an object from behind its brace or behind a member. The keys in `seen`
    have come already. Every member takes a character, so `fuel` is the length of the text. -/
def readMembers (fields : List (Field ρ)) :
    Nat → (first : Bool) → (seen : List String) → ρ → Reader ρ
  | 0, _, _, _, _ => .error (.ended .object)
  | fuel + 1, first, seen, record, s => do
    let key ←
      match skipBlanks s with
      | [] => throw (.ended .object)
      | '\x7d' :: r => return (record, r)
      | '"' :: r => if first then pure r else throw .expectedCommaOrBrace
      | ',' :: r =>
        if first then throw .keyNotString
        else
          match skipBlanks r with
          | [] => throw (.ended .value)
          | '"' :: r => pure r
          | '\x7d' :: _ => throw .trailingComma
          | _ => throw .keyNotString
      | _ => throw (if first then .keyNotString else .expectedCommaOrBrace)
    let (text, rest) ← readString true key
    match fields.find? (·.key = String.ofList text) with
    | some field =>
      if seen.contains field.key then throw (.duplicateField field.key)
      let (put, rest) ← field.read (← readColon rest)
      readMembers fields fuel false (field.key :: seen) (put record) rest
    | none =>
      let rest ← skipValue (← readColon rest)
      readMembers fields fuel false seen record rest

/-- Reads a record whose type has the name `expected`, from its defaults. -/
def readRecord (expected : String) (fields : List (Field ρ)) (defaults : ρ) : Reader ρ := fun s =>
  match skipBlanks s with
  | '[' :: r => readElements fields true defaults r
  | '\x7b' :: r => readMembers fields r.length.succ true [] defaults r
  | r => wrongType expected r

/-- Reads a text that holds one value and nothing else but white space. -/
def readAll {α : Type} (read : Reader α) (text : String) : Except Problem α := do
  let (a, rest) ← read text.toList
  if (skipBlanks rest).isEmpty then return a else throw .trailingCharacters

end LedBoard.Json
