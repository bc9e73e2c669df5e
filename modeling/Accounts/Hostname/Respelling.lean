import Accounts.Hostname.RespellingTable

/-!
# Respelling

A host name is the same in capitals and in small letters, in wide and in narrow forms. Before it is
compared or sent, each of its characters gives way to those that stand for all of its forms.

* `respell?`: what stands in place of a character;
* `stays`: a character that stands for itself.
-/

namespace Accounts.Hostname

/-- What stands in a host name in place of a character, or `none` for one without a place in it. -/
def respell? (c : Char) : Option (List Char) :=
  let n := c.toNat
  if Text.inRanges omitted c then some []
  else if Text.inRanges refused c then none
  else
    match Text.find? (fun entry => compare n (entry.headD 0)) respelled with
    | some entry => some ((entry.drop 1).map Char.ofNat)
    | none =>
      match Text.find? (fun entry => Text.side n (entry.headD 0, entry.getD 1 0)) shifted with
      | some entry => some [Char.ofNat (entry.getD 2 0 + (n - entry.headD 0))]
      | none =>
        match Text.find? (Text.side n) paired with
        | some (first, _) => some [if (n - first) % 2 = 0 then Char.ofNat (n + 1) else c]
        | none => some [c]

/-- A character that stands for itself. -/
def stays (c : Char) : Bool := respell? c == some [c]

end Accounts.Hostname
