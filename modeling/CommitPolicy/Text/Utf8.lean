namespace CommitPolicy.Text.Utf8

structure Pending where
  bits : Nat
  /-- How many bytes are still to come, less one. -/
  more : Nat
  low : UInt8
  high : UInt8

inductive Start where
  | single (c : Char)
  | lead (p : Pending)
  | invalid

def Start.ofByte (b : UInt8) : Start :=
  let n := b.toNat
  if n < 0x80 then single (Char.ofNat n)
  else if n < 0xC2 then invalid
  else if n < 0xE0 then lead ⟨n % 0x20, 0, 0x80, 0xBF⟩
  else if n = 0xE0 then lead ⟨n % 0x10, 1, 0xA0, 0xBF⟩
  else if n = 0xED then lead ⟨n % 0x10, 1, 0x80, 0x9F⟩
  else if n < 0xF0 then lead ⟨n % 0x10, 1, 0x80, 0xBF⟩
  else if n = 0xF0 then lead ⟨n % 0x08, 2, 0x90, 0xBF⟩
  else if n < 0xF4 then lead ⟨n % 0x08, 2, 0x80, 0xBF⟩
  else if n = 0xF4 then lead ⟨n % 0x08, 2, 0x80, 0x8F⟩
  else invalid

/-- The characters of some bytes, none standing for a fault. `pending` is a character of which the
first bytes came before. -/
def scan (pending : Option Pending) : List UInt8 → List (Option Char)
  | [] => if pending.isSome then [none] else []
  | b :: rest =>
    let restart := match Start.ofByte b with
      | .single c => some c :: scan none rest
      | .lead p => scan (some p) rest
      | .invalid => none :: scan none rest
    match pending with
    | none => restart
    | some p =>
      if p.low ≤ b ∧ b ≤ p.high then
        let bits := p.bits * 0x40 + b.toNat % 0x40
        match p.more with
        | 0 => some (Char.ofNat bits) :: scan none rest
        | more + 1 => scan (some ⟨bits, more, 0x80, 0xBF⟩) rest
      else none :: restart

def decode? (bytes : ByteArray) : Option String :=
  ((scan none bytes.data.toList).mapM id).map String.ofList

/-- The text of some bytes. Where they are no character, the longest run of them that could have
started one counts as a single fault and becomes a replacement character. -/
def decodeLossy (bytes : ByteArray) : String :=
  String.ofList ((scan none bytes.data.toList).map (·.getD '\uFFFD'))

end CommitPolicy.Text.Utf8
