/-!
# What can go wrong with passwords

* `PasswordFault`: a hash could not be made, does not fit, or is no hash.
-/

namespace Accounts

/-- Why a password is not accepted. -/
inductive PasswordFault
  | hashing
  | verification
  | hashFormat
  deriving DecidableEq

/-- The wording of a fault. -/
def PasswordFault.message : PasswordFault → String
  | .hashing => "비밀번호 해싱 실패"
  | .verification => "비밀번호 검증 실패"
  | .hashFormat => "잘못된 해시 형식"

end Accounts
