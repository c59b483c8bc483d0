/-!
Bytes read as UTF-8. Where the bytes are no UTF-8, each longest run that could have begun a character
is replaced by one replacement character.
-/

namespace AgentHooks.Text

def replacement : Char := '\ufffd'

/-- What a leading byte announces: how many bytes follow, its own bits, and the bounds of the byte
after it, which exclude long forms, surrogates and numbers beyond the last code point. -/
def leading? (b : Nat) : Option (Nat × Nat × Nat × Nat) :=
  if b < 0x80 then some (0, b, 0, 0)
  else if 0xc2 ≤ b && b ≤ 0xdf then some (1, b - 0xc0, 0x80, 0xbf)
  else if b = 0xe0 then some (2, 0, 0xa0, 0xbf)
  else if b = 0xed then some (2, 0xd, 0x80, 0x9f)
  else if 0xe1 ≤ b && b ≤ 0xef then some (2, b - 0xe0, 0x80, 0xbf)
  else if b = 0xf0 then some (3, 0, 0x90, 0xbf)
  else if 0xf1 ≤ b && b ≤ 0xf3 then some (3, b - 0xf0, 0x80, 0xbf)
  else if b = 0xf4 then some (3, 4, 0x80, 0x8f)
  else none

/-- Reading state: the bits so far, how many bytes are still due, and the bounds of the next one. -/
structure Utf8State where
  text : List Char
  bits : Nat
  due : Nat
  low : Nat
  high : Nat

def Utf8State.lead (text : List Char) (b : Nat) : Utf8State :=
  match leading? b with
  | none => ⟨replacement :: text, 0, 0, 0, 0⟩
  | some (0, bits, _, _) => ⟨Char.ofNat bits :: text, 0, 0, 0, 0⟩
  | some (due, bits, low, high) => ⟨text, bits, due, low, high⟩

def Utf8State.step (s : Utf8State) (byte : UInt8) : Utf8State :=
  let b := byte.toNat
  match s.due with
  | 0 => .lead s.text b
  | due + 1 =>
    if s.low ≤ b && b ≤ s.high then
      let bits := s.bits * 64 + (b - 0x80)
      if due = 0 then ⟨Char.ofNat bits :: s.text, 0, 0, 0, 0⟩
      else ⟨s.text, bits, due, 0x80, 0xbf⟩
    else .lead (replacement :: s.text) b

def ofBytes (bytes : List UInt8) : String :=
  let s := bytes.foldl Utf8State.step ⟨[], 0, 0, 0, 0⟩
  String.ofList (if s.due = 0 then s.text else replacement :: s.text).reverse

end AgentHooks.Text
