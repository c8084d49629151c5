import Warden.Text.Blank
import Warden.Text.Lower

/-!
# Checked input fields

The checks that run on user input before any store or service call: a nickname is trimmed and
holds at most 32 characters; a required field is trimmed and must not be empty; an email is
compared in its normal form, trimmed and lowercased.
-/

namespace Warden

/-- Why a field was refused. -/
inductive FieldError where
  /-- The trimmed field holds `actual` characters, more than `max`. -/
  | tooLong (field : String) (max actual : Nat)
  /-- Nothing is left of the field after trimming. -/
  | empty (field : String)
  deriving DecidableEq, Repr

namespace FieldError

/-- The message of a refusal. -/
def message : FieldError → String
  | tooLong field max actual =>
    field ++ " exceeds maximum length (" ++ toString max ++ " characters, got " ++ toString actual
      ++ ")"
  | empty field => field ++ " must not be empty"

end FieldError

/-- The most characters a nickname may hold. -/
def maxNicknameChars : Nat := 32

/-- A nickname, trimmed, if it holds at most 32 characters. -/
def checkNickname (s : String) : Except FieldError String :=
  let t := Text.trim s
  if t.length > maxNicknameChars then .error (.tooLong "nickname" maxNicknameChars t.length)
  else .ok t

/-- A required field, trimmed, if anything is left. -/
def requireText (field s : String) : Except FieldError String :=
  let t := Text.trim s
  if t.isEmpty then .error (.empty field) else .ok t

/-- The normal form of an email address: trimmed and lowercased. -/
def normalEmail (s : String) : String := Text.lowercase (Text.trim s)

end Warden
