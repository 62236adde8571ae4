import DbLifecycle.Text.Integer

/-!
# Dates and times

* `Toml.date?`, `Toml.time?`, `Toml.zone?`: the parts of a date with a time.
* `Toml.moment?`: a date, a time, or both, in their plain form: a capital T between them, no zeros
  at the end of a fraction but one digit at least, a capital Z, and a plus sign before a zone
  without offset.
-/

namespace DbLifecycle.Toml

/-- A number of just so many digits at the front, and what follows it. -/
def digitGroup? (n : Nat) (cs : List Char) : Option (Nat × List Char) :=
  let ds := cs.take n
  if ds.length = n ∧ ds.all Char.isDigit then some (Text.Integer.ofDigits ds, cs.drop n) else none

/-- The days of a month. -/
def daysOf (year month : Nat) : Nat :=
  if month = 2 then
    if year % 4 = 0 ∧ (year % 100 ≠ 0 ∨ year % 400 = 0) then 29 else 28
  else if month ∈ [4, 6, 9, 11] then 30
  else 31

/-- What follows a date. -/
def date? (cs : List Char) : Option (List Char) :=
  match digitGroup? 4 cs with
  | some (year, '-' :: r) =>
    match digitGroup? 2 r with
    | some (month, '-' :: r) =>
      match digitGroup? 2 r with
      | some (day, r) =>
        if 1 ≤ month ∧ month ≤ 12 ∧ 1 ≤ day ∧ day ≤ daysOf year month then some r else none
      | none => none
    | _ => none
  | _ => none

/-- Hours and minutes, and what follows them. -/
def minutes? (cs : List Char) : Option (List Char) :=
  match digitGroup? 2 cs with
  | some (hour, ':' :: r) =>
    match digitGroup? 2 r with
    | some (minute, r) => if hour ≤ 23 ∧ minute ≤ 59 then some r else none
    | none => none
  | _ => none

/-- Digits without the zeros at the end. -/
def withoutZeros (ds : List Char) : List Char := (ds.reverse.dropWhile (· == '0')).reverse

/-- The most digits of a fraction that count. -/
def fractionDigits : Nat := 9

/-- A fraction of a second, if there is one, in its plain form, and what follows it. -/
def fraction? : List Char → Option (List Char × List Char)
  | '.' :: r =>
    let ds := r.takeWhile Char.isDigit
    if ds.isEmpty then none
    else
      match withoutZeros (ds.take fractionDigits) with
      | [] => some (['.', '0'], r.drop ds.length)
      | kept => some ('.' :: kept, r.drop ds.length)
  | r => some ([], r)

/-- A time in its plain form, and what follows it. The seconds may be missing, and a minute may have
a leap second. -/
def time? (cs : List Char) : Option (List Char × List Char) :=
  match minutes? cs with
  | some (':' :: r) =>
    match digitGroup? 2 r with
    | some (second, r) =>
      if second ≤ 60 then (fraction? r).map fun p => (cs.take 8 ++ p.1, p.2) else none
    | none => none
  | some r => some (cs.take 5, r)
  | none => none

/-- A time zone in its plain form; there may be none. -/
def zone? : List Char → Option (List Char)
  | [] => some []
  | ['Z'] | ['z'] => some ['Z']
  | sign :: r =>
    if sign == '+' || sign == '-' then
      match minutes? r with
      | some [] => some ((if r = "00:00".toList then '+' else sign) :: r)
      | _ => none
    else none

/-- A date, a time, or both, in its plain form. -/
def moment? (cs : List Char) : Option (List Char) :=
  match date? cs with
  | some [] => some cs
  | some (mark :: r) =>
    if mark == 'T' || mark == 't' || mark == ' ' then
      (time? r).bind fun p => (zone? p.2).map fun z => cs.take 10 ++ 'T' :: p.1 ++ z
    else none
  | none =>
    match time? cs with
    | some (t, []) => some t
    | _ => none

end DbLifecycle.Toml
