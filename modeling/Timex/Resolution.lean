import Timex.Calendar.Date
import Timex.Marker
import Timex.Token.Canonical

/-!
# Resolution of wildcards

A resolved token is text without wildcards and the set of markers taken out. An
unknown year or month is dropped, or filled in from today's date. `Dated` keeps the
two apart: a settled result never asks for the date.
-/

namespace Timex

/-- A result, or a question about today's date whose answer gives one. -/
inductive Dated (α : Type) where
  | settled (result : α)
  | asksToday (result : Date → α)

namespace Dated

/-- The result on a day. -/
def on (today : Date) : Dated α → α
  | .settled result => result
  | .asksToday result => result today

def map (f : α → β) : Dated α → Dated β
  | .settled result => .settled (f result)
  | .asksToday result => .asksToday fun today => f (result today)

@[simp] theorem on_settled (today : Date) (a : α) : (settled a).on today = a := rfl

@[simp] theorem on_asksToday (today : Date) (f : Date → α) :
    (asksToday f).on today = f today := rfl

@[simp] theorem on_map (today : Date) (f : α → β) (d : Dated α) :
    (d.map f).on today = f (d.on today) := by
  cases d <;> rfl

end Dated

/-- What becomes of an unknown year or month. -/
inductive Filling where
  | strip
  | substitute
  deriving DecidableEq, Repr

structure Resolution where
  text : Text
  markers : Markers
  deriving DecidableEq, Repr

namespace Resolution

/-- `XXXX-WXX-` -/
def weekMark : Text := ['X', 'X', 'X', 'X', '-', 'W', 'X', 'X', '-']

/-- `XXXX-XX-` -/
def yearMonthMark : Text := ['X', 'X', 'X', 'X', '-', 'X', 'X', '-']

/-- `XXXX-` -/
def yearMark : Text := ['X', 'X', 'X', 'X', '-']

/-- `-XX` -/
def dayMark : Text := ['-', 'X', 'X']

def yearDigits (date : Date) : Text := Text.zeroPadded 4 date.year

def monthDigits (date : Date) : Text := Text.zeroPadded 2 date.month

/-- The week, month or year mark of a canonical token, taken out or filled in. The
week mark may stand anywhere and goes once; the other two stand in front. A day
that is itself unknown keeps `XXXX-XX-` from being filled in. -/
def ofMark (filling : Filling) (text : Text) : Dated Resolution :=
  match Text.eraseFirst? weekMark text with
  | some rest => .settled ⟨rest, Markers.none.insert .weekReference⟩
  | none =>
  match yearMonthMark.isPrefixOf? text with
  | some rest =>
    let markers := (Markers.none.insert .unspecifiedYear).insert .unspecifiedMonth
    if filling = .strip ∨ ['X', 'X'].isPrefixOf rest then .settled ⟨rest, markers⟩
    else .asksToday fun today =>
      ⟨yearDigits today ++ '-' :: monthDigits today ++ '-' :: rest, markers⟩
  | none =>
  match yearMark.isPrefixOf? text with
  | some rest =>
    let markers := Markers.none.insert .unspecifiedYear
    if filling = .strip then .settled ⟨rest, markers⟩
    else .asksToday fun today => ⟨yearDigits today ++ '-' :: rest, markers⟩
  | none => .settled ⟨text, Markers.none⟩

/-- Drops a final day mark, unless the token refers to a week. -/
def dropDayMark (r : Resolution) : Resolution :=
  match dayMark.isSuffixOf? r.text with
  | some rest =>
    if r.markers.weekReference then r
    else ⟨rest, r.markers.insert .unspecifiedDay⟩
  | none => r

def ofToken (filling : Filling) (token : Text) : Dated Resolution :=
  (ofMark filling (Token.canonical token)).map dropDayMark

end Resolution

/-- The resolution of a token on a day. -/
def resolve (filling : Filling) (today : Date) (token : Text) : Resolution :=
  (Resolution.ofToken filling token).on today

end Timex
