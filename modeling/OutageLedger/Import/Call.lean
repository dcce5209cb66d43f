import OutageLedger.Journal
import OutageLedger.Program
import OutageLedger.Store.Call

/-
  The calls that an importer makes: questions to the paging service, calls to the store, pauses, the
  clock, new ids, and notes in the journal.
-/

namespace OutageLedger

inductive ImportCall
  | ask (q : ProviderQuery)
  | pause
  | store (c : StoreCall)
  | now
  | newId
  | note (e : Event)

abbrev ImportCall.Reply : ImportCall → Type
  | ask q => Except ProviderError q.Answer
  | pause => Unit
  | store c => Except StoreError c.Answer
  | now => Instant
  | newId => Uuid
  | note _ => Unit

/-- How long a pause between two pages lasts, in milliseconds. -/
def pageDelay : Nat := 500

/-- The calls of importers with their replies. -/
abbrev importing : Signature :=
  ⟨ImportCall, ImportCall.Reply⟩

/-- An importer that ends with a result. -/
abbrev Importer (α : Type) : Type :=
  Program importing α

namespace Importer

def ask (q : ProviderQuery) : Importer (Except ProviderError q.Answer) :=
  Program.perform (S := importing) (.ask q)

/-- Waits before the next page. -/
def pause : Importer Unit :=
  Program.perform (S := importing) .pause

def store (c : StoreCall) : Importer (Except StoreError c.Answer) :=
  Program.perform (S := importing) (.store c)

def now : Importer Instant :=
  Program.perform (S := importing) .now

def newId : Importer Uuid :=
  Program.perform (S := importing) .newId

def note (e : Event) : Importer Unit :=
  Program.perform (S := importing) (.note e)

end Importer

end OutageLedger
