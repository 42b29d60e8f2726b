/-
**Where effect text comes from.** A book of the texts that combatants carry with them: traits,
skills, powers and items.
-/

import Skirmish.CombatantId
import Skirmish.Text.Blank

namespace Skirmish

/-- What a text comes from. -/
inductive SourceKind where
  | trait
  | skill
  | power
  | item
deriving DecidableEq, Repr

/-- A text and what it comes from. -/
structure SourceEntry where
  kind : SourceKind
  name : String
  text : String
deriving DecidableEq, Repr

/-- The texts of all combatants, in the order in which they were added. -/
structure SourceBook where
  pages : List (CombatantId × SourceEntry)
deriving DecidableEq, Repr

namespace SourceBook

/-- A book without texts. -/
def empty : SourceBook := ⟨[]⟩

instance : Inhabited SourceBook := ⟨empty⟩

/-- The book with a text more. -/
def add (book : SourceBook) (owner : CombatantId) (entry : SourceEntry) : SourceBook :=
  ⟨book.pages ++ [(owner, entry)]⟩

/-- The book without the texts of a combatant. -/
def clear (book : SourceBook) (owner : CombatantId) : SourceBook :=
  ⟨book.pages.filter (·.1 != owner)⟩

/-- The entries of a combatant. -/
def entries (book : SourceBook) (owner : CombatantId) : List SourceEntry :=
  (book.pages.filter (·.1 == owner)).map (·.2)

/-- A text holds nothing but blanks. -/
def isBlankText (text : String) : Bool := text.toList.all Text.isBlank

/-- The texts of a combatant and some more, but for blank ones. -/
def texts (book : SourceBook) (owner : CombatantId) (more : List String) : List String :=
  ((book.entries owner).map (·.text) ++ more).filter (!isBlankText ·)

end SourceBook

end Skirmish
