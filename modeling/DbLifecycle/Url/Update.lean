import DbLifecycle.Url.Parser

/-!
# Changing the parts of a URL

User name, password and port can be set where there is a host; each of them, and the path, is
written so that no other part changes.

* `Url.setUsername?`, `Url.setPassword?`, `Url.setPort?`: `none` where there is no host.
* `Url.setPath`: resolves points and escapes what would end a path; a path that begins with a
  question mark or a number sign is taken as empty.
-/

namespace DbLifecycle

namespace Url

/-- Changes the authority, if it has a host. -/
def withHost? (f : Authority → Authority) (u : Url) : Option Url :=
  match u.authority with
  | some a => if a.host.isEmpty then none else some { u with authority := some (f a) }
  | none => none

/-- Sets the user name. -/
def setUsername? (name : List Char) : Url → Option Url :=
  withHost? fun a => { a with username := Percent.encode inUserinfo name }

/-- Sets the password; an empty one removes it. -/
def setPassword? (password : List Char) : Url → Option Url :=
  withHost? fun a => { a with password := Percent.encode inUserinfo password }

/-- Sets the port. -/
def setPort? (n : Nat) : Url → Option Url :=
  withHost? fun a => { a with port := some n }

/-- The path a text gives to a URL with an authority. -/
def pathOf (cs : List Char) : Path :=
  match cs.filter fun c => !isIgnored c with
  | '?' :: _ => .rooted []
  | '#' :: _ => .rooted []
  | cs => rootedPath cs

/-- Sets the path. -/
def setPath (cs : List Char) (u : Url) : Url := { u with path := pathOf cs }

end Url

end DbLifecycle
