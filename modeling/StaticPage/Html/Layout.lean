import StaticPage.Calendar.Date
import StaticPage.Failure
import StaticPage.Text.Split

/-!
# Layouts

A layout is a page with a marker where the rendered body goes, and possibly one where the date goes.
Each marker is filled once, at its first occurrence, the body before the date. The date stands there
with the name of its month and a year of at least four digits.
-/

namespace StaticPage

namespace Date

def monthName (month : Nat) : String :=
  match month with
  | 1 => "January"
  | 2 => "February"
  | 3 => "March"
  | 4 => "April"
  | 5 => "May"
  | 6 => "June"
  | 7 => "July"
  | 8 => "August"
  | 9 => "September"
  | 10 => "October"
  | 11 => "November"
  | _ => "December"

def fourDigits (n : Nat) : String :=
  let s := toString n
  String.ofList (List.replicate (4 - s.length) '0') ++ s

/-- A year: four digits, with a sign if it has more of them or lies before the year zero. -/
def yearText (year : Int) : String :=
  if year < 0 then "-" ++ fourDigits year.natAbs
  else if year < 10000 then fourDigits year.natAbs
  else "+" ++ fourDigits year.natAbs

/-- A date as it stands on a page: the month's name, the day, and the year after a comma. -/
def long (d : Date) : String :=
  monthName d.month ++ " " ++ toString d.day ++ ", " ++ yearText d.year

end Date

namespace Html

def contentMarker : List Char := "<!--CONTENT-->".toList

def dateMarker : List Char := "<!--LAST_UPDATED-->".toList

/-- The page that a layout makes of a body and a date. The path names the layout in a failure. -/
def applyLayout (layout body : String) (date : Date) (path : String) : Except Failure String :=
  match Text.cutWord? contentMarker layout.toList with
  | none => .error (.layoutMarker path)
  | some (before, after) =>
    .ok (String.ofList
      (Text.replaceFirst dateMarker date.long.toList (before ++ body.toList ++ after)))

end Html

end StaticPage
