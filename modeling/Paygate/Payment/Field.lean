import Paygate.Text.Str

/-!
# Form values

The value of a form field is a text, or a file that the client attached in its place. A file is
never empty, and every operation that needs a text fails on it.
-/

namespace Paygate

inductive Field where
  | text (value : Str)
  | upload
deriving DecidableEq, Repr

namespace Field

instance : Coe Str Field := ⟨.text⟩

instance : Coe String Field := ⟨fun s => .text s⟩

instance : Inhabited Field := ⟨.text ""⟩

def isEmpty : Field → Bool
  | text s => s.isEmpty
  | upload => false

/-- The string that a value is. -/
def string? : Field → Option String
  | text s => s.whole?
  | upload => none

@[simp] theorem isEmpty_text (s : Str) : (text s).isEmpty = s.isEmpty := rfl

@[simp] theorem isEmpty_upload : upload.isEmpty = false := rfl

end Field

end Paygate
