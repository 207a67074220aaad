import XmlTemplate.Proofs.Expansion.Dependence
import XmlTemplate.Proofs.Source.Relocation

/-!
A site can be moved into another directory. Where includes name their sources by relative paths,
the expansion of the moved template resolves each of them to the moved target, reuses an expanded
include where the other one does, and so returns the same document. The two expansions are followed
as long as the first one succeeds, since a source outside the site is found by neither.
-/

namespace XmlTemplate.Template

open Markup

/-- Includes name their sources by relative paths, and not by variables. -/
def LiteralIncludes (nodes : Forest) : Prop :=
  ∀ tag ∈ nodes.tags, isDirective tag.1 = true →
    DirectiveKind.ofName? tag.1.localName = some .inclusion →
      tag.2.plain? "srcvar" = none ∧
        ∀ written ∈ tag.2.plain? "src", Path.isAbsolute written = false

instance (nodes : Forest) : Decidable (LiteralIncludes nodes) :=
  inferInstanceAs (Decidable (∀ tag ∈ nodes.tags, _ → _ → _ ∧ _))

theorem lookup_moved {Item : Type} {move : SourceId → SourceId}
    (injective : Function.Injective move) (pairs : List (SourceId × Item)) (source : SourceId) :
    (pairs.map fun entry => (move entry.1, entry.2)).lookup (move source) =
      pairs.lookup source := by
  induction pairs with
  | nil => rfl
  | cons first rest ih =>
      have same : (move source == move first.1) = (source == first.1) := by
        simp [injective.eq_iff]
      rw [List.map_cons, List.lookup_cons, List.lookup_cons, same, ih]

/-- What is known below a directory if `progress` is known without it. Only sources of the site were
asked for. -/
structure Progress.Moved (front : List String) (progress other : Progress) : Prop where
  kept : other.kept = progress.kept.map fun entry => (entry.1.below front, entry.2)
  requests : other.requests = progress.requests.map (·.below front)
  keptInner : ∀ entry ∈ progress.kept, entry.1.IsInner
  requestsInner : ∀ source ∈ progress.requests, source.IsInner

/-- What one library finds, the other one finds below a directory. -/
def MovedLibrary (front : List String) (library moved : Library) : Prop :=
  ∀ source loaded, library.load source = .ok loaded →
    source.IsInner ∧ moved.load (source.below front) = .ok loaded

/-- Where the first computation succeeds, the other one returns the same below a directory. -/
def Follows (front : List String) {Result : Type} (run movedRun : Expand Result) : Prop :=
  ∀ progress other value later, progress.Moved front other → run progress = (.ok value, later) →
    ∃ last, movedRun other = (.ok value, last) ∧ later.Moved front last

section
variable {front : List String} {Result : Type}

theorem follows_pure (value : Result) : Follows front (pure value) (pure value) := by
  intro progress other result later moved ran
  obtain ⟨same, rfl⟩ := Prod.mk.inj ran
  exact ⟨other, congrArg (·, other) same, moved⟩

theorem follows_throw (failure : Failure) (movedRun : Expand Result) :
    Follows front (throw failure) movedRun := by
  intro progress other value later moved ran
  rw [run_throw] at ran
  cases ran

theorem follows_note (event otherEvent : Event) :
    Follows front (note event) (note otherEvent) := by
  intro progress other value later moved ran
  obtain ⟨-, rfl⟩ := Prod.mk.inj ran
  exact ⟨_, rfl, moved.kept, moved.requests, moved.keptInner, moved.requestsInner⟩

theorem follows_bind {Other : Type} {first movedFirst : Expand Result}
    {next movedNext : Result → Expand Other} (firstFollows : Follows front first movedFirst)
    (nextFollows : ∀ value, Follows front (next value) (movedNext value)) :
    Follows front (first >>= next) (movedFirst >>= movedNext) := by
  intro progress other value later moved ran
  obtain ⟨result, middle, begun, rest⟩ := ok_of_bind ran
  obtain ⟨otherMiddle, otherBegun, between⟩ :=
    firstFollows progress other result middle moved begun
  rw [run_bind_ok otherBegun]
  exact nextFollows result middle otherMiddle value later between rest

theorem follows_select (selector : String) (document : Document) :
    Follows front (Surroundings.select selector document)
      (Surroundings.select selector document) := by
  unfold Surroundings.select
  split
  · exact follows_throw _ _
  · exact follows_bind (follows_note _ _) fun _ => follows_pure _

end

section
variable {front : List String} {bindings : Bindings} {source movedSource : SourceId}
  {fetch movedFetch : String → SourceId → Expand Document}

def FetchFollows (front : List String) (source movedSource : SourceId)
    (fetch movedFetch : String → SourceId → Expand Document) : Prop :=
  ∀ written, Path.isAbsolute written = false →
    Follows front (fetch written (source.joinRelative written))
      (movedFetch written (movedSource.joinRelative written))

theorem follows_inclusion (fetched : FetchFollows front source movedSource fetch movedFetch)
    {attributes : Attributes} (noVariable : attributes.plain? "srcvar" = none)
    (relative : ∀ written ∈ attributes.plain? "src", Path.isAbsolute written = false)
    (elements : Setting) :
    Follows front
      ((Surroundings.mk bindings source fetch).runInclusion (.ofAttributes attributes "src")
        elements)
      ((Surroundings.mk bindings movedSource movedFetch).runInclusion
        (.ofAttributes attributes "src") elements) := by
  have resolved : (Setting.ofAttributes attributes "src").resolve bindings =
      (.direct, attributes.plain? "src") := by
    simp [Setting.resolve, Setting.ofAttributes, Setting.indirectName, noVariable]
  unfold Surroundings.runInclusion
  dsimp only
  cases direct : attributes.plain? "src" with
  | none =>
      rw [direct] at resolved
      obtain ⟨failure, refused⟩ := refused_of_resolve resolved .inclusion source
      rw [refused, lift_error_bind]
      exact follows_throw _ _
  | some written =>
      rw [direct] at resolved
      rw [require_of_resolve resolved, require_of_resolve resolved, lift_ok_bind, lift_ok_bind]
      apply follows_bind (fetched written (relative written direct))
      intro document
      exact follows_bind (follows_select _ _) fun _ => follows_pure _

theorem follows_attr (enclosed : Bool) (name value : Setting) :
    Follows front ((Surroundings.mk bindings source fetch).runAttr enclosed name value)
      ((Surroundings.mk bindings movedSource movedFetch).runAttr enclosed name value) := by
  unfold Surroundings.runAttr Setting.require
  dsimp only
  split
  · rw [lift_ok_bind, lift_ok_bind]
    cases enclosed with
    | true => exact follows_pure _
    | false => exact follows_throw _ _
  · rw [lift_error_bind]
    exact follows_throw _ _
  · rw [lift_error_bind]
    exact follows_throw _ _

theorem follows_dynamic (var : Option String) :
    Follows front ((Surroundings.mk bindings source fetch).runDynamic var)
      ((Surroundings.mk bindings movedSource movedFetch).runDynamic var) := by
  unfold Surroundings.runDynamic Surroundings.lookup?
  dsimp only
  cases var.bind bindings.get? with
  | some value => exact follows_pure _
  | none => exact follows_bind (follows_note _ _) fun _ => follows_pure _

mutual
theorem follows_node (fetched : FetchFollows front source movedSource fetch movedFetch)
    (enclosed : Bool) : (node : Node) → LiteralIncludes [node] →
      Follows front ((Surroundings.mk bindings source fetch).expandNode enclosed node)
        ((Surroundings.mk bindings movedSource movedFetch).expandNode enclosed node)
  | .element name attributes children, literal => by
      have below : LiteralIncludes children := fun tag member =>
        literal tag (List.mem_append_left _ (.tail _ member))
      by_cases special : isDirective name = true
      · rw [expand_directive special, expand_directive special]
        unfold Directive.decode
        cases named : DirectiveKind.ofName? name.localName with
        | none =>
            rw [lift_error_bind]
            exact follows_throw _ _
        | some kind =>
            rw [lift_ok_bind, lift_ok_bind]
            apply follows_bind (follows_note _ _)
            intro _
            cases kind with
            | condition =>
                dsimp only [Directive.ofKind, Surroundings.effect]
                change Follows front (if (Surroundings.mk bindings source fetch).isActive _ _ then
                  _ else _) (if (Surroundings.mk bindings source fetch).isActive _ _ then _ else _)
                split
                · exact follows_forest fetched enclosed children below
                · exact follows_pure _
            | inclusion =>
                obtain ⟨noVariable, relative⟩ :=
                  literal (name, attributes) (.head _) special named
                exact follows_inclusion fetched noVariable relative _
            | text => exact follows_pure _
            | attr => exact follows_attr enclosed _ _
            | dynamic => exact follows_dynamic _
      · rw [expand_ordinary special, expand_ordinary special]
        exact follows_bind (follows_forest fetched true children below) fun _ => follows_pure _
  | .text _, _ | .cdata _, _ | .comment _, _ | .instruction _, _ | .doctype _, _
  | .declaration _, _ => follows_pure _

theorem follows_forest (fetched : FetchFollows front source movedSource fetch movedFetch)
    (enclosed : Bool) : (nodes : Forest) → LiteralIncludes nodes →
      Follows front ((Surroundings.mk bindings source fetch).expandForest enclosed nodes)
        ((Surroundings.mk bindings movedSource movedFetch).expandForest enclosed nodes)
  | [], _ => follows_pure _
  | node :: rest, literal => by
      have here : LiteralIncludes [node] := by
        intro tag member
        rw [Forest.tags, Forest.tags, List.append_nil] at member
        exact literal tag (List.mem_append_left _ member)
      have later : LiteralIncludes rest := fun tag member =>
        literal tag (List.mem_append_right _ member)
      apply follows_bind (follows_node fetched enclosed node here)
      intro first
      exact follows_bind (follows_forest fetched enclosed rest later) fun _ => follows_pure _
end

end

section
variable {front : List String} {library moved : Library} {bindings : Bindings}
  {stack : List SourceId} {source : SourceId}

theorem fetch_follows (renamed : MovedLibrary front library moved) (inner : source.IsInner)
    (nested : ∀ target loaded, target ∉ stack → library.load target = .ok loaded →
      Follows front (expandSource library bindings (stack ++ [target]) target loaded)
        (expandSource moved bindings ((stack ++ [target]).map (·.below front))
          (target.below front) loaded)) :
    FetchFollows front source (source.below front) (fetchKept library bindings stack source)
      (fetchKept moved bindings (stack.map (·.below front)) (source.below front)) := by
  intro written relative progress other value later known ran
  let target := source.joinRelative written
  have injective := SourceId.below_injective front
  have aim : target.IsInner →
      (source.below front).joinRelative written = target.below front := fun within =>
    SourceId.join_relative_below front inner relative within.anchor
  have same : other.kept.lookup (target.below front) = progress.kept.lookup target := by
    rw [known.kept]
    exact lookup_moved injective _ _
  obtain ⟨fresh, how⟩ := fetch_ok_cases ran
  have freshBelow : target.below front ∉ stack.map (·.below front) := by
    rw [List.mem_map_of_injective injective]
    exact fresh
  obtain ⟨kept, rfl⟩ | ⟨unkept, loaded, middle, found, nestedRan, rfl⟩ := how
  · have within := known.keptInner _ (mem_of_lookup kept)
    rw [aim within, run_fetch_reused freshBelow (same.trans kept)]
    exact ⟨_, rfl, known.kept, known.requests, known.keptInner, known.requestsInner⟩
  · obtain ⟨within, foundBelow⟩ := renamed target loaded found
    rw [aim within, run_fetch_loaded freshBelow (same.trans unkept) foundBelow]
    have asked : (progress.request target).Moved front
        (other.request (target.below front)) := by
      refine ⟨known.kept, ?_, known.keptInner, ?_⟩
      · exact congrArg (target.below front :: ·) known.requests
      · exact List.forall_mem_cons.2 ⟨within, known.requestsInner⟩
    obtain ⟨last, movedRan, after⟩ :=
      nested target loaded fresh found _ _ _ _ asked nestedRan
    rw [List.map_append, List.map_singleton] at movedRan
    rw [movedRan]
    refine ⟨_, rfl, ?_, after.requests, ?_, after.requestsInner⟩
    · exact congrArg ((target.below front, value) :: ·) after.kept
    · exact List.forall_mem_cons.2 ⟨within, after.keptInner⟩

theorem source_follows (renamed : MovedLibrary front library moved) (bindings : Bindings)
    (literal : ∀ source loaded, library.load source = .ok loaded → LiteralIncludes loaded.nodes)
    (stack : List SourceId) (source : SourceId) (document : Document) (inner : source.IsInner)
    (here : LiteralIncludes document.nodes) :
    Follows front (expandSource library bindings stack source document)
      (expandSource moved bindings (stack.map (·.below front)) (source.below front) document) := by
  have fetched := @fetch_follows front library moved bindings stack source renamed inner
    fun target loaded fresh found => source_follows renamed bindings literal (stack ++ [target])
      target loaded (renamed target loaded found).1 (literal target loaded found)
  rw [expand_source_eq, expand_source_eq]
  exact follows_bind (follows_forest fetched false document.nodes here) fun _ => follows_pure _
termination_by unvisited library stack
decreasing_by exact unvisited_lt fresh found

end

def siteWithin (directory : String) (entries : List (SourceId × String)) :
    List (SourceId × String) :=
  entries.map fun entry => (entry.1.within directory, entry.2)

theorem moved_library_within {directory : String} {entries : List (SourceId × String)}
    (plain : Path.IsPlain directory) (inner : ∀ entry ∈ entries, entry.1.IsInner) :
    MovedLibrary (SourceId.ofPath directory).names (.inMemory entries)
      (.inMemory (siteWithin directory entries)) := by
  have renamed : siteWithin directory entries = entries.map fun entry =>
      (entry.1.below (SourceId.ofPath directory).names, entry.2) := by
    apply List.map_congr_left
    intro entry member
    rw [SourceId.within_eq_below plain (inner entry member)]
  intro source loaded found
  obtain ⟨text, kept, read⟩ := Library.load_in_memory_iff.1 found
  have member := List.mem_reverse.1 (mem_of_lookup kept)
  refine ⟨inner _ member, Library.load_in_memory_iff.2 ⟨text, ?_, read⟩⟩
  rw [renamed, ← List.map_reverse]
  exact (lookup_moved (SourceId.below_injective _) _ _).trans kept

/-- A site can be moved into a directory. Every source is then found below the directory, and where
the expansion of a template of the site succeeded, it succeeds there with the same document and
requests the same sources below the directory. -/
theorem expand_relocated (entries : List (SourceId × String)) (directory : String)
    (bindings : Bindings) (root : SourceId) (document output : Document)
    (plain : Path.IsPlain directory) (inner : ∀ entry ∈ entries, entry.1.IsInner)
    (literal : ∀ source loaded, (Library.inMemory entries).load source = .ok loaded →
      LiteralIncludes loaded.nodes)
    (found : (Library.inMemory entries).load root = .ok document)
    (expanded : ((Template.mk root document).expand (.inMemory entries) bindings).1 = .ok output) :
    let moved := Library.inMemory (siteWithin directory entries)
    let template := Template.mk (root.within directory) document
    moved.load template.source = .ok document ∧
      (template.expand moved bindings).1 = .ok output ∧
      (template.expand moved bindings).2.requests =
        ((Template.mk root document).expand (.inMemory entries) bindings).2.requests.map
          (·.within directory) := by
  intro moved template
  have renamed := moved_library_within plain inner
  obtain ⟨rootInner, rootFound⟩ := renamed root document found
  have place := SourceId.within_eq_below plain rootInner
  refine ⟨(congrArg moved.load place).trans rootFound, ?_⟩
  rw [run_expand] at expanded
  rw [run_expand, run_expand]
  dsimp only at expanded ⊢
  rcases ran : expandSource (.inMemory entries) bindings [root] root document
    (opening ⟨root, document⟩ bindings) with ⟨outcome, later⟩
  rw [ran] at expanded
  cases outcome with
  | error failure => cases expanded
  | ok value =>
      cases expanded
      have start : (opening ⟨root, document⟩ bindings).Moved (SourceId.ofPath directory).names
          (opening template bindings) := ⟨rfl, rfl, nofun, nofun⟩
      obtain ⟨last, movedRan, known⟩ := source_follows renamed bindings literal [root] root document
        rootInner (literal root document found) _ _ _ _ start ran
      have runs : expandSource moved bindings [template.source] template.source document
          (opening template bindings) = (.ok output, last) := by
        rw [← movedRan]
        change expandSource moved bindings [root.within directory] (root.within directory)
          document _ = _
        rw [place]
        rfl
      rw [runs]
      refine ⟨rfl, known.requests.trans ?_⟩
      apply List.map_congr_left
      intro source asked
      exact (SourceId.within_eq_below plain (known.requestsInner source asked)).symm

namespace Site

def entries : List (SourceId × String) :=
  [(.ofPath "page.xml", declaringDirectives "p" "<t:include src='parts/./nav.xml'/>"),
    (.ofPath "parts/nav.xml", declaringDirectives "r" "<t:include src='../common/item.xml'/>"),
    (.ofPath "common/item.xml", "<r><i>menu</i></r>")]

def page : Document :=
  ⟨[.element (.plain "p") [⟨⟨some "xmlns", "t", none⟩, templateUri⟩]
    [.element ⟨some "t", "include", some templateUri⟩ [⟨.plain "src", "parts/./nav.xml"⟩] []]]⟩

def nav : Document :=
  ⟨[.element (.plain "r") [⟨⟨some "xmlns", "t", none⟩, templateUri⟩]
    [.element ⟨some "t", "include", some templateUri⟩ [⟨.plain "src", "../common/item.xml"⟩] []]]⟩

def item : Document := ⟨[.element (.plain "r") [] [.element (.plain "i") [] [.text "menu"]]]⟩

def output : Document := ⟨[.element (.plain "p") [] [.element (.plain "i") [] [.text "menu"]]]⟩

theorem entries_inner : ∀ entry ∈ entries, entry.1.IsInner := by
  intro entry member
  rcases List.mem_cons.1 member with rfl | member
  · exact SourceId.inner_of_path (by decide +kernel) (by decide +kernel)
  · rcases List.mem_cons.1 member with rfl | member
    · exact SourceId.inner_of_path (by decide +kernel) (by decide +kernel)
    · rw [List.mem_singleton.1 member]
      exact SourceId.inner_of_path (by decide +kernel) (by decide +kernel)

theorem entries_read : entries.map (fun entry => Document.read entry.2) =
    [.ok page, .ok nav, .ok item] := by decide +kernel

theorem entries_literal (source : SourceId) (loaded : Document)
    (found : (Library.inMemory entries).load source = .ok loaded) :
    LiteralIncludes loaded.nodes := by
  obtain ⟨text, kept, read⟩ := Library.read_of_in_memory found
  have member := List.mem_map_of_mem (f := fun entry : SourceId × String => Document.read entry.2)
    kept
  rw [entries_read, read] at member
  have literal : ∀ document ∈ [page, nav, item], LiteralIncludes document.nodes := by
    decide +kernel
  apply literal
  simpa using member

theorem moved_to_docs :
    let moved := Library.inMemory (siteWithin "www/docs" entries)
    let template := Template.mk ((SourceId.ofPath "page.xml").within "www/docs") page
    template.source = .ofPath "www/docs/page.xml" ∧
      moved.load template.source = .ok page ∧
      (template.expand moved .empty).1 = .ok output ∧
      (template.expand moved .empty).2.requests =
        [.ofPath "www/docs/common/item.xml", .ofPath "www/docs/parts/nav.xml"] := by
  have found : (Library.inMemory entries).load (.ofPath "page.xml") = .ok page := by
    decide +kernel
  have run : ((Template.mk (.ofPath "page.xml") page).expand (.inMemory entries) .empty).1 =
      .ok output ∧
    ((Template.mk (.ofPath "page.xml") page).expand (.inMemory entries) .empty).2.requests =
      [.ofPath "common/item.xml", .ofPath "parts/nav.xml"] := by decide +kernel
  obtain ⟨loads, outcome, requests⟩ := expand_relocated entries "www/docs" .empty
    (.ofPath "page.xml") page output ⟨by decide +kernel, by decide +kernel⟩ entries_inner
    entries_literal found run.1
  rw [run.2] at requests
  exact ⟨by decide +kernel, loads, outcome, requests.trans (by decide +kernel)⟩

end Site

end XmlTemplate.Template
