import AgentHooks.Text.Utf8

/-!
What files hold: texts as a rule, but nobody keeps other programs from writing bytes that are no UTF-8. Such
a file can be moved, added to and removed like any other; only there is no text to be read from it.
-/

namespace AgentHooks

/-- A text added to bytes that are no UTF-8 does not make them UTF-8: it begins with a character of its own. -/
theorem broken_append {bytes : ByteArray} (broken : ¬bytes.IsValidUTF8) (s : String) :
    ¬(bytes ++ s.toByteArray).IsValidUTF8 := by
  intro whole
  let joined : String := ⟨bytes ++ s.toByteArray, whole⟩
  let seam : String.Pos.Raw := ⟨bytes.size⟩
  have size : joined.utf8ByteSize = bytes.size + s.toByteArray.size := ByteArray.size_append
  have inside : seam ≤ joined.rawEndPos := by
    change bytes.size ≤ joined.utf8ByteSize
    omega
  have behind : joined.toByteArray.extract bytes.size joined.utf8ByteSize = s.toByteArray :=
    ByteArray.extract_append_eq_right rfl size
  have front : joined.toByteArray.extract 0 bytes.size = bytes := ByteArray.extract_append_eq_left rfl
  have valid : seam.IsValid joined := by
    refine String.Pos.Raw.isValid_iff_isValidUTF8_extract_utf8ByteSize.2 ⟨inside, ?_⟩
    change (joined.toByteArray.extract bytes.size joined.utf8ByteSize).IsValidUTF8
    rw [behind]
    exact s.isValidUTF8
  apply broken
  rw [← front]
  exact valid.isValidUTF8_extract_zero

inductive Content where
  | text (s : String)
  | garbled (bytes : ByteArray) (broken : ¬bytes.IsValidUTF8)

namespace Content

instance : DecidableEq Content
  | text s, text t => decidable_of_iff (s = t) (by simp)
  | text _, garbled _ _ | garbled _ _, text _ => isFalse nofun
  | garbled a _, garbled b _ => decidable_of_iff (a.data = b.data) (by simp [ByteArray.ext_iff])

def ofBytes (bytes : ByteArray) : Content :=
  if whole : bytes.IsValidUTF8 then text ⟨bytes, whole⟩ else garbled bytes whole

def bytes : Content → ByteArray
  | text s => s.toByteArray
  | garbled bytes _ => bytes

def text? : Content → Option String
  | text s => some s
  | garbled _ _ => none

/-- What is shown of a content, with replacement characters where it is no text. -/
def shown : Content → String
  | text s => s
  | garbled bytes _ => Text.ofBytes bytes.data.toList

instance : Coe String Content := ⟨text⟩

instance : CoeOut Content String := ⟨shown⟩

def append : Content → String → Content
  | text s, more => text (s ++ more)
  | garbled bytes broken, more => garbled (bytes ++ more.toByteArray) (broken_append broken more)

instance : HAppend Content String Content := ⟨append⟩

theorem ofBytes_bytes (c : Content) : ofBytes c.bytes = c := by
  cases c with
  | text s => exact dif_pos s.isValidUTF8
  | garbled bytes broken => exact dif_neg broken

/-- A content is its bytes. -/
theorem bytes_inj {c d : Content} : c.bytes = d.bytes ↔ c = d := by
  refine ⟨fun same => ?_, congrArg bytes⟩
  rw [← ofBytes_bytes c, same, ofBytes_bytes]

theorem bytes_append (c : Content) (s : String) : (c ++ s).bytes = c.bytes ++ s.toByteArray := by
  cases c with
  | text t => exact String.toByteArray_append
  | garbled bytes broken => rfl

theorem append_empty (c : Content) : c ++ "" = c := by
  rw [← bytes_inj, bytes_append, String.toByteArray_empty, ByteArray.append_empty]

theorem empty_append (s : String) : text "" ++ s = text s :=
  congrArg text String.empty_append

theorem append_assoc (c : Content) (first second : String) : c ++ first ++ second = c ++ (first ++ second) := by
  rw [← bytes_inj, bytes_append, bytes_append, bytes_append, String.toByteArray_append, ByteArray.append_assoc]

theorem append_right_inj (c : Content) {first second : String} : c ++ first = c ++ second ↔ first = second := by
  rw [← bytes_inj, bytes_append, bytes_append, ByteArray.append_right_inj, String.toByteArray_inj]

end Content

end AgentHooks
