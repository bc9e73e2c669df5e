import Accounts.Email.Domain
import Accounts.Hostname.International

/-!
# Mail addresses

* `isAddress`: a local part and a domain around the last at sign.
-/

namespace Accounts.Email

/-- A character of a local part. -/
def isLocalChar (c : Char) : Bool := isAlnum c || ".!#$%&'*+/=?^_\x60\x7b|\x7d~-".toList.contains c

/-- A domain in basic characters, or one that ends with an address of the network. -/
def isPlainDomain (domain : List Char) : Bool := isDomain domain || endsWithLiteral domain

/-- A domain is plain, or has other characters and is plain in its form in basic ones. -/
def acceptsDomain (domain : List Char) : Bool :=
  isPlainDomain domain ||
    (!domain.all Hostname.Punycode.isBasic && (Hostname.basicForm? domain).any isPlainDomain)

/-- A mail address: a local part of at most 64 characters before the last at sign, and a domain of
at most 255 after it. -/
def isAddress (s : String) : Bool :=
  match Text.cutLast? '@' s.toList with
  | none => false
  | some (user, domain) =>
    user.length ≤ 64 && domain.length ≤ 255 && !user.isEmpty && user.all isLocalChar &&
      acceptsDomain domain

end Accounts.Email
