/-
BucketUrl/Trail.lean

Recognising a URL and reading it as an address, with the events that are told on the way.

Every step tells its events at the place where they occur.  Recognition leaves one event, which says
what the rules found.  Reading leaves the finding where the rules were asked, then the layout, then
either the address or the reason for its rejection.  A rejection by the rules is told by the finding
itself.
-/
import BucketUrl.Address.Parser
import BucketUrl.Trail.Event

namespace BucketUrl

/-- A computation that has told some events, with its result or the error in its place. -/
structure Traced (α : Type) where
  /-- The events, in order. -/
  events : List Event
  /-- The result. -/
  result : Except Address.Error α
deriving Repr

namespace Traced

/-- One computation after another.  The second is left out if the first has no result. -/
def bind {α β : Type} (x : Traced α) (f : α → Traced β) : Traced β :=
  match x.result with
  | .ok a => { events := x.events ++ (f a).events, result := (f a).result }
  | .error e => { events := x.events, result := .error e }

instance : Monad Traced where
  pure a := { events := [], result := .ok a }
  bind := bind

/-- Tells an event. -/
def tell (e : Event) : Traced Unit where
  events := [e]
  result := .ok ()

/-- Fails without a word. -/
def fail {α : Type} (e : Address.Error) : Traced α where
  events := []
  result := .error e

/-- Fails, and tells why. -/
def reject {α : Type} (reason : Rejection) : Traced α where
  events := [.rejected reason]
  result := .error (.invalidUrl reason)

/-- Whether a question has an answer, and it is yes. -/
def holds (x : Traced Bool) : Bool :=
  match x.result with
  | .ok answer => answer
  | .error _ => false

end Traced

open Traced

/-! ### Recognition -/

/-- The location of a URI. -/
def Location.ofUriTraced (u : Uri) : Traced Location :=
  match Location.ofUri u with
  | .ok l => return l
  | .error fault => reject (.undecodable u.path fault)

/-- Asks the given rules in order, and tells what they said. -/
def Location.askTraced (l : Location) : List Rule → Traced Finding
  | [] => do
    tell (.found l.host .unsettled)
    return .unsettled
  | rule :: rules =>
    match rule.verdict? l with
    | some accepted => do
      tell (.found l.host (.settled rule accepted))
      return .settled rule accepted
    | none => l.askTraced rules

/-- Whether a URI is recognised. -/
def Uri.isS3Traced (u : Uri) : Traced Bool := do
  let l ← Location.ofUriTraced u
  let finding ← l.askTraced Rule.all
  return finding.accepted

/-- Whether a text is recognised.  Nothing is told of a text that is no URI. -/
def Text.isS3Traced (s : Text) : Traced Bool :=
  match Uri.parse s with
  | .ok u => u.isS3Traced
  | .error fault => fail (.invalidUrl (.notUri s fault))

/-- The events of recognising a text. -/
def Text.trail (s : Text) : List Event :=
  s.isS3Traced.events

/-! ### Reading -/

namespace Layout

/-- The layout of a location. -/
def ofLocationTraced (l : Location) : Traced Layout :=
  match l.scheme? with
  | none => reject (.unsupportedScheme l.scheme)
  | some scheme =>
    if l.host = [] then reject .emptyHost
    else match AmazonHost.ofHost? l.host with
      | some parts => return .amazon parts
      | none => do
        let finding ← l.askTraced Rule.all
        if finding.accepted then return ofOtherHost scheme l
        else fail (.invalidUrl (.unrecognized l.host finding))

/-- The address of a location in this layout, without the query. -/
def addressTraced (l : Location) (layout : Layout) : Traced Address := do
  tell (.laidOut l.host layout)
  match layout.address l with
  | .ok a => return a
  | .error (.invalidUrl reason) => reject reason
  | .error (.invalidUri fault) => fail (.invalidUri fault)

end Layout

namespace Address

/-- The address that a URI stands for. -/
def ofUriTraced (u : Uri) : Traced Address := do
  let l ← Location.ofUriTraced u
  let layout ← Layout.ofLocationTraced l
  let bare ← layout.addressTraced l
  let a := withQuery (u.query?.getD []) bare
  tell (.parsed a)
  return a

/-- The address that a text stands for. -/
def parseTraced (s : Text) : Traced Address :=
  match Uri.parse s with
  | .ok u => ofUriTraced u
  | .error fault => reject (.notUri s fault)

/-- The events of reading a text. -/
def trail (s : Text) : List Event :=
  (parseTraced s).events

end Address

end BucketUrl
