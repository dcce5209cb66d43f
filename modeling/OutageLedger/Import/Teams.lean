import OutageLedger.Import.Call

/-
  The teams of a paging service, and a list of them as text.
-/

namespace OutageLedger

/-- Asks for the teams. -/
def Importer.listTeams (source : Source) : Importer (Except ProviderError (List Team)) := do
  note (.fetchingTeams source)
  match ← ask .teams with
  | .error e => pure (.error e)
  | .ok (teams : List Team) =>
    note (.fetchedTeams teams.length)
    pure (.ok teams)

/-- A line with the id and the name of the team. -/
def Team.line (t : Team) : String :=
  s!"  ID: {t.id}\tName: {t.name}\n"

def teamsText (teams : List Team) : String :=
  String.join (teams.map Team.line)

end OutageLedger
