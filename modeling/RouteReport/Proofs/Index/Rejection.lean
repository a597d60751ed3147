import RouteReport.Proofs.Index.Decoding
import RouteReport.Proofs.Index.Settled

namespace RouteReport

open Ruby (ContainerKind Node)

def Node.isDefinition : Node → Bool
  | .container _ _ _ _ _ => true
  | _ => false

/-- The name of a definition cannot be decoded; or its superclass cannot, but the index knows the class. -/
def HeadingFails (index : Index) : Node → Prop
  | .container _ kind name superclass _ =>
    decodeFault? name ≠ none ∨ (superclassTexts kind superclass).findSome? decodeFault? ≠ none ∧
      (index.container? kind (qualifiedNameIn [] (decoded name).trim)).isSome = true
  | _ => False

instance (index : Index) : (node : Node) → Decidable (HeadingFails index node)
  | .container _ kind name superclass _ =>
    inferInstanceAs (Decidable (decodeFault? name ≠ none ∨
      (superclassTexts kind superclass).findSome? decodeFault? ≠ none ∧
        (index.container? kind (qualifiedNameIn [] (decoded name).trim)).isSome = true))
  | .method _ _ | .call _ _ _ | .constant _ | .scopePath _ | .other _ =>
    inferInstanceAs (Decidable False)

section Heading

variable {file namespaceName : Text} {text name : Octets} {kind : ContainerKind}
  {superclass : Option Octets} {statements : List Node}

theorem trace_of_name_fault {fault : Utf8.DecodeError} (undecodable : decodeFault? name = some fault) :
    Node.trace file namespaceName (.container text kind name superclass statements) =
      ⟨[], some fault⟩ := by
  rw [Node.trace, Trace.ofDecoded_of_undecodable undecodable]

theorem trace_of_superclass_fault {fault : Utf8.DecodeError} (decodable : decodeFault? name = none)
    (undecodable : (superclassTexts kind superclass).findSome? decodeFault? = some fault) :
    Node.trace file namespaceName (.container text kind name superclass statements) =
      ⟨[⟨kind, qualifiedNameIn namespaceName (decoded name).trim, .opened⟩], some fault⟩ := by
  rw [Node.trace, Trace.ofDecoded_of_decodable decodable]
  dsimp only
  rw [Body.inheritance_of_fault _ _ _ undecodable]
  rfl

theorem located_of_heading (named : file ≠ []) (decodable : decodeFault? name = none)
    (inherited : (superclassTexts kind superclass).findSome? decodeFault? = none) :
    ⟨kind, qualifiedNameIn namespaceName (decoded name).trim, .located file⟩ ∈
      (Node.trace file namespaceName (.container text kind name superclass statements)).events := by
  rw [Node.trace, Trace.ofDecoded_of_decodable decodable]
  dsimp only
  rw [Trace.events_followedBy rfl,
    Trace.events_followedBy ((Body.fault_inheritance ..).trans inherited),
    Trace.events_followedBy (Body.fault_location _)]
  simp [Body.location, named, Body.event, Trace.one]

end Heading

section NewFile

variable {index : Index} {file : Text} (named : file ≠ [])
  (fresh : ∀ kind, ∀ container ∈ index.table kind, file ∉ container.files)

include fresh

theorem not_settled_of_located {events : List Event} {kind : ContainerKind} {name : Text}
    (located : ⟨kind, name, .located file⟩ ∈ events) : ¬ index.Settled events := by
  intro settled
  obtain ⟨container, known, listed⟩ := settled.adds_nothing _ located
  exact fresh kind container (ContainerTable.mem_of_get? known).1 listed

include named

theorem settled_container_iff (text name : Octets) (kind : ContainerKind)
    (superclass : Option Octets) (statements : List Node) (later : Trace) :
    index.Settled
        ((Node.trace file [] (.container text kind name superclass statements)).followedBy later).events ↔
      HeadingFails index (.container text kind name superclass statements) := by
  cases decoding : decodeFault? name with
  | some fault =>
    rw [trace_of_name_fault decoding, Trace.followedBy_of_fault rfl]
    exact iff_of_true (Index.settled_of_heading (by simp)) (.inl (by simp [decoding]))
  | none =>
    cases inherited : (superclassTexts kind superclass).findSome? decodeFault? with
    | some fault =>
      rw [trace_of_superclass_fault decoding inherited, Trace.followedBy_of_fault rfl]
      constructor
      · intro settled
        obtain ⟨container, known, _⟩ := settled.adds_nothing _ List.mem_cons_self
        exact .inr ⟨by simp [inherited], Option.isSome_iff_exists.mpr ⟨container, known⟩⟩
      · rintro (undecodable | ⟨_, known⟩)
        · exact absurd decoding undecodable
        · exact Index.settled_of_heading (by simpa using known)
    | none =>
      refine iff_of_false (not_settled_of_located fresh
        (Trace.events_subset_followedBy _ later (located_of_heading named decoding inherited))) ?_
      rintro (undecodable | ⟨undecodable, _⟩)
      · exact undecodable decoding
      · exact undecodable inherited

theorem settled_traceOf_iff (statements : List Node) :
    index.Settled (traceOf file statements).events ↔
      ∀ first ∈ statements.find? Node.isDefinition, HeadingFails index first := by
  induction statements with
  | nil =>
    have nothing : (traceOf file []).events = [] := rfl
    rw [nothing]
    exact iff_of_true (Index.settled_of_heading (by simp)) (by simp)
  | cons statement rest ih =>
    rw [traceOf, List.map_cons, Trace.join_cons]
    cases statement with
    | container text kind name superclass inner =>
      rw [settled_container_iff named fresh]
      simp [Node.isDefinition]
    | _ => simpa [traceOf, Trace.followedBy, Node.trace, Trace.none, Node.isDefinition] using ih

end NewFile

/-- A file is rejected for the first of its texts that cannot be decoded, and what it says up to there goes
into the index. The index is as it was before just when it is settled under that. Where the file is new to
it, this is so just when the first definition, if there is one, does not get beyond its heading. -/
theorem rejected_file_iff (parse : Ruby.Parser) (sources : List ParsedSource) (file : Text)
    (source : Octets) :
    ((Index.ofSources sources).addSource file source parse).2 =
        (ParsedSource.texts ⟨file, parse source⟩).findSome? decodeFault? ∧
      (((Index.ofSources sources).addSource file source parse).1 = Index.ofSources sources ↔
        (Index.ofSources sources).Settled (ParsedSource.events ⟨file, parse source⟩)) ∧
      (file ≠ [] →
        (∀ kind, ∀ container ∈ (Index.ofSources sources).table kind, file ∉ container.files) →
        (((Index.ofSources sources).addSource file source parse).1 = Index.ofSources sources ↔
          ∀ first ∈ (parse source).find? Node.isDefinition,
            HeadingFails (Index.ofSources sources) first)) := by
  have unchanged : ((Index.ofSources sources).addSource file source parse).1 = Index.ofSources sources ↔
      (Index.ofSources sources).Settled (ParsedSource.events ⟨file, parse source⟩) :=
    Index.foldl_eq_self_iff (Index.distinct_ofSources sources)
  refine ⟨ParsedSource.fault_eq ⟨file, parse source⟩, unchanged, ?_⟩
  intro named fresh
  rw [unchanged]
  exact settled_traceOf_iff named fresh (parse source)

def knownClass : List ParsedSource := [⟨"/a.rb".toList, [sampleClass "A" []]⟩]

def brokenHeading : Octets :=
  Utf8.encode "class A < base(\"".toList ++ [255] ++ Utf8.encode "\")\n def x; end\nend\n".toList

theorem rejected_file_of_heading :
    "/b.rb".toList ≠ [] ∧
      (∀ kind, ∀ container ∈ (Index.ofSources knownClass).table kind,
        "/b.rb".toList ∉ container.files) ∧
      ((Index.ofSources knownClass).addSource "/b.rb".toList brokenHeading).2 ≠ none ∧
      ((Index.ofSources knownClass).addSource "/b.rb".toList brokenHeading).1 =
        Index.ofSources knownClass := by
  have named : "/b.rb".toList ≠ [] := by decide
  have fresh : ∀ kind, ∀ container ∈ (Index.ofSources knownClass).table kind,
      "/b.rb".toList ∉ container.files := by
    intro kind
    cases kind <;> decide +kernel
  obtain ⟨fault, _, unchanged⟩ := rejected_file_iff Ruby.read knownClass "/b.rb".toList brokenHeading
  refine ⟨named, fresh, ?_, (unchanged named fresh).mpr (by decide +kernel)⟩
  rw [fault]
  decide +kernel

def brokenSource : Octets :=
  Utf8.encode "class A\n def x; end\n private \"".toList ++ [255] ++ Utf8.encode "\"\nend\n".toList

theorem rejected_file_indexed :
    ¬ ∀ (sources : List ParsedSource) (file : Text) (source : Octets),
      ((Index.ofSources sources).addSource file source).2 = none ∨
        ((Index.ofSources sources).addSource file source).1 = Index.ofSources sources := by
  intro always
  rcases always [] "app/x.rb".toList brokenSource with complete | unchanged
  · exact absurd complete (by decide +kernel)
  · exact absurd unchanged (by decide +kernel)

end RouteReport
