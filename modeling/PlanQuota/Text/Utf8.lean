/-!
UTF-8 as a list of bytes. A text that comes from outside need not be well formed, so reading it
gives a list of symbols: a character, or `none` for each maximal piece that is no character. The
strict reading, the reading with replacement characters and the document reader all start from
the same symbols.
-/
namespace PlanQuota.Utf8

/-- The bytes of one character. -/
def encodeChar (c : Char) : List UInt8 :=
  let n := c.toNat
  if n < 0x80 then [.ofNat n]
  else if n < 0x800 then [.ofNat (0xC0 + n / 64), .ofNat (0x80 + n % 64)]
  else if n < 0x10000 then
    [.ofNat (0xE0 + n / 4096), .ofNat (0x80 + n / 64 % 64), .ofNat (0x80 + n % 64)]
  else
    [.ofNat (0xF0 + n / 262144), .ofNat (0x80 + n / 4096 % 64), .ofNat (0x80 + n / 64 % 64),
      .ofNat (0x80 + n % 64)]

def encode (cs : List Char) : List UInt8 := cs.flatMap encodeChar

/-- A character that has begun: `needed` more bytes belong to it, and the next of them lies
between `low` and `high`. -/
structure Begun where
  point : Nat
  needed : Nat
  low : Nat
  high : Nat
  deriving DecidableEq, Repr

/-- What a byte means where a character may begin. -/
inductive Lead
  | single (c : Char)
  | begins (b : Begun)
  | stray
  deriving DecidableEq, Repr

/-- Surrogates, overlong forms and numbers past the last character are excluded by the range of
the second byte. -/
def lead (byte : UInt8) : Lead :=
  let n := byte.toNat
  if n < 0x80 then .single (Char.ofNat n)
  else if n < 0xC2 then .stray
  else if n < 0xE0 then .begins ⟨n - 0xC0, 1, 0x80, 0xBF⟩
  else if n = 0xE0 then .begins ⟨0, 2, 0xA0, 0xBF⟩
  else if n = 0xED then .begins ⟨0xD, 2, 0x80, 0x9F⟩
  else if n < 0xF0 then .begins ⟨n - 0xE0, 2, 0x80, 0xBF⟩
  else if n = 0xF0 then .begins ⟨0, 3, 0x90, 0xBF⟩
  else if n < 0xF4 then .begins ⟨n - 0xF0, 3, 0x80, 0xBF⟩
  else if n = 0xF4 then .begins ⟨4, 3, 0x80, 0x8F⟩
  else .stray

/-- The symbols read so far, the last one first, and the character that has begun after them. -/
structure Scan where
  done : List (Option Char)
  begun : Option Begun
  deriving DecidableEq, Repr

/-- Reads a byte where a character may begin. -/
def Scan.start (done : List (Option Char)) (byte : UInt8) : Scan :=
  match lead byte with
  | .single c => ⟨some c :: done, none⟩
  | .begins b => ⟨done, some b⟩
  | .stray => ⟨none :: done, none⟩

/-- A byte that cannot go on the character begun ends it as one bad symbol and is read anew. -/
def Scan.step (s : Scan) (byte : UInt8) : Scan :=
  match s.begun with
  | none => start s.done byte
  | some b =>
    let n := byte.toNat
    if b.low ≤ n ∧ n ≤ b.high then
      let point := b.point * 64 + (n - 0x80)
      if b.needed = 1 then ⟨some (Char.ofNat point) :: s.done, none⟩
      else ⟨s.done, some ⟨point, b.needed - 1, 0x80, 0xBF⟩⟩
    else start (none :: s.done) byte

/-- The symbols in order; a character cut off by the end is one bad symbol. -/
def Scan.finish (s : Scan) : List (Option Char) :=
  (if s.begun.isSome then none :: s.done else s.done).reverse

def symbols (bytes : List UInt8) : List (Option Char) :=
  (bytes.foldl Scan.step ⟨[], none⟩).finish

/-- The characters, if every byte belongs to one. -/
def decode? (bytes : List UInt8) : Option (List Char) := (symbols bytes).mapM id

/-- The characters, with U+FFFD for each bad symbol. -/
def decodeLossy (bytes : List UInt8) : List Char := (symbols bytes).map (·.getD '\uFFFD')

/-- The bytes of a text. -/
def ofString (s : String) : List UInt8 := encode s.toList

def toString? (bytes : List UInt8) : Option String := (decode? bytes).map String.ofList

def toStringLossy (bytes : List UInt8) : String := String.ofList (decodeLossy bytes)

example : decodeLossy [0x61, 0xE2, 0x82, 0x62] = ['a', '\uFFFD', 'b'] := by decide
example : decodeLossy [0xED, 0xA0, 0x80] = ['\uFFFD', '\uFFFD', '\uFFFD'] := by decide
example : symbols (encode ['é', '€', '😀']) = [some 'é', some '€', some '😀'] := by decide

end PlanQuota.Utf8
