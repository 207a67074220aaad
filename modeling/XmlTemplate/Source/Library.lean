import XmlTemplate.Failure
import XmlTemplate.Markup.Reading

/-!
Where templates are loaded from. A library answers the same request always in the same way, and it
has finitely many readable sources; expansion ends because each include that is followed uses up one
of them.
-/

namespace XmlTemplate

open Markup

def SourceId.readDocument (source : SourceId) (text : String) : Except Failure Document :=
  (Document.read text).mapError fun malformed =>
    .malformed source malformed.line malformed.fault.message

def SourceId.readFragment (source : SourceId) (text : String) : Except Failure Forest :=
  (Forest.read text).mapError fun malformed =>
    .malformed source malformed.line malformed.fault.message

theorem mem_of_lookup {Key Item : Type} [BEq Key] [LawfulBEq Key] {pairs : List (Key × Item)}
    {key : Key} {item : Item} (found : pairs.lookup key = some item) : (key, item) ∈ pairs := by
  rcases List.lookup_eq_some_iff.1 found with ⟨before, after, split, _⟩
  rw [split]
  simp

structure Library where
  read : SourceId → Except IoCause String
  ids : List SourceId
  mem_ids : ∀ {source text}, read source = .ok text → source ∈ ids

namespace Library

def load (library : Library) (source : SourceId) : Except Failure Document :=
  match library.read source with
  | .error cause => .error (.unreadable source cause)
  | .ok text => source.readDocument text

theorem mem_ids_of_load {library : Library} {source : SourceId} {document : Document}
    (h : library.load source = .ok document) : source ∈ library.ids := by
  unfold load at h
  split at h
  · simp at h
  · rename_i read
    exact library.mem_ids read

/-- A source that cannot be loaded is unreadable or malformed, and the failure names it. -/
theorem error_of_load {library : Library} {source : SourceId} {failure : Failure}
    (h : library.load source = .error failure) :
    (∃ cause, failure = .unreadable source cause) ∨
      ∃ line message, failure = .malformed source line message := by
  unfold load at h
  split at h
  · rename_i cause _
    cases h
    exact .inl ⟨cause, rfl⟩
  · rename_i text _
    unfold SourceId.readDocument at h
    cases read : Document.read text with
    | error malformed =>
      rw [read] at h
      cases h
      exact .inr ⟨_, _, rfl⟩
    | ok document =>
      rw [read] at h
      cases h

def absent : IoCause := ⟨.notFound, "no such in-memory source"⟩

/-- The sources kept in memory; of two texts for one source the later counts. -/
def inMemory (sources : List (SourceId × String)) : Library where
  read source :=
    match sources.reverse.lookup source with
    | some text => .ok text
    | none => .error absent
  ids := sources.map (·.1)
  mem_ids {source text} h := by
    split at h
    · rename_i found
      obtain ⟨before, after, split, _⟩ := List.lookup_eq_some_iff.1 found
      have member : (source, text) ∈ sources := by
        simp only [Except.ok.injEq] at h
        rw [← List.mem_reverse, split]
        simp [h]
      exact List.mem_map_of_mem (f := (·.1)) member
    · simp at h

theorem load_in_memory_iff {entries : List (SourceId × String)} {source : SourceId}
    {loaded : Document} : (inMemory entries).load source = .ok loaded ↔
      ∃ text, entries.reverse.lookup source = some text ∧ Document.read text = .ok loaded := by
  unfold load inMemory
  dsimp only
  cases kept : entries.reverse.lookup source with
  | none => simp
  | some text =>
    simp only [SourceId.readDocument, Option.some.injEq, exists_eq_left']
    cases Document.read text with
    | error malformed => exact ⟨nofun, nofun⟩
    | ok document =>
      constructor
      · intro same
        cases same
        rfl
      · intro same
        cases same
        rfl

/-- What is loaded from memory was read from one of the texts kept there. -/
theorem read_of_in_memory {entries : List (SourceId × String)} {source : SourceId}
    {loaded : Document} (found : (inMemory entries).load source = .ok loaded) :
    ∃ text, (source, text) ∈ entries ∧ Document.read text = .ok loaded := by
  obtain ⟨text, kept, read⟩ := load_in_memory_iff.1 found
  exact ⟨text, List.mem_reverse.1 (mem_of_lookup kept), read⟩

end Library

/-- Sources in memory with a record of the requests for them, latest first. -/
structure Shelf where
  sources : List (SourceId × String) := []
  requests : List SourceId := []

namespace Shelf

def add (shelf : Shelf) (source : SourceId) (text : String) : Shelf :=
  { shelf with sources := shelf.sources ++ [(source, text)] }

def library (shelf : Shelf) : Library := .inMemory shelf.sources

def record (shelf : Shelf) (requests : List SourceId) : Shelf :=
  { shelf with requests := requests ++ shelf.requests }

/-- Loads a source. The request is recorded whether or not it succeeds. -/
def load (shelf : Shelf) (source : SourceId) : Except Failure Document × Shelf :=
  (shelf.library.load source, shelf.record [source])

def loadCount (shelf : Shelf) (source : SourceId) : Nat := shelf.requests.count source

def totalLoads (shelf : Shelf) : Nat := shelf.requests.length

end Shelf
end XmlTemplate
