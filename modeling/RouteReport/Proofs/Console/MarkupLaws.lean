import RouteReport.Console.Report
import RouteReport.Proofs.TextLaws

namespace RouteReport.Console

def isPlainChar (c : Char) : Bool := c != '[' && c != '\\'

def isPlain (text : Text) : Bool := text.all isPlainChar

theorem isPlain_append (front back : Text) : isPlain (front ++ back) = (isPlain front && isPlain back) :=
  List.all_append

theorem isPlain_of_not_mem {text : Text} (noBracket : '[' ∉ text) (noSlash : '\\' ∉ text) :
    isPlain text = true := by
  apply List.all_eq_true.mpr
  intro c present
  have apart : c ≠ '[' ∧ c ≠ '\\' := by
    constructor <;> rintro rfl <;> contradiction
  simpa [isPlainChar] using apart

theorem isPlain_of_members {text : Text} {member : Char → Bool} (inside : ∀ c ∈ text, member c = true)
    (noBracket : member '[' = false) (noSlash : member '\\' = false) : isPlain text = true :=
  isPlain_of_not_mem (fun present => Bool.noConfusion ((inside _ present).symm.trans noBracket))
    fun present => Bool.noConfusion ((inside _ present).symm.trans noSlash)

/-- Tags begin with a small letter, `#`, `/` or `@` behind their bracket. -/
def opensTag : Text → Bool
  | [] => false
  | c :: rest => (c == '[' && rest.head?.any startsTag) || opensTag rest

theorem opensTag_of_not_mem {text : Text} (noBracket : '[' ∉ text) : opensTag text = false := by
  induction text with
  | nil => rfl
  | cons c rest ih =>
    obtain ⟨first, later⟩ : '[' ≠ c ∧ '[' ∉ rest := by simpa using noBracket
    simp [opensTag, first.symm, ih later]

theorem opensTag_of_isPlain {text : Text} (plain : isPlain text = true) : opensTag text = false :=
  opensTag_of_not_mem fun present => absurd (List.all_eq_true.mp plain _ present) (by decide)

structure IsStyleName (style : Text) : Prop where
  start : style.head?.any Text.isAsciiLower = true
  inside : style.all (fun c => Text.isAsciiLower c || c == ' ') = true
  trimmed : style.trim = style

instance (style : Text) : Decidable (IsStyleName style) :=
  decidable_of_iff (style.head?.any Text.isAsciiLower = true ∧
      style.all (fun c => Text.isAsciiLower c || c == ' ') = true ∧ style.trim = style)
    ⟨fun ⟨start, inside, trimmed⟩ => ⟨start, inside, trimmed⟩,
      fun ⟨start, inside, trimmed⟩ => ⟨start, inside, trimmed⟩⟩

/-- A closing tag stands before any other tag. -/
def ClosesNothing (markup : Text) : Prop :=
  ∃ front name rest, isPlain front = true ∧ '[' ∉ name ∧ ']' ∉ name ∧
    markup = front ++ '[' :: '/' :: (name ++ ']' :: rest)

/-- A property that markup keeps behind plain text, and behind plain text in the tags of a style: these tags
close what they open. -/
structure IgnoresFront (holds : Text → Prop) : Prop where
  behind {front rest : Text} (before : isPlain front = true) (later : holds rest) : holds (front ++ rest)
  around {style : String} {body rest : Text} (named : IsStyleName style.toList)
    (between : isPlain body = true) (later : holds rest) : holds (styled style body ++ rest)

def Drawing.markups : Drawing → List Text
  | .lines markup => [markup]
  | .panel title content => [title, content]
  | .table title columns => title :: columns.flatMap fun column => column.header :: column.cells

namespace Renderer

variable {Fault : Type} {renderer : Renderer Fault} {accepted rejected : Text → Prop}

/-- What a report relies on in its renderer. It reads markup with tags in brackets, of which a closing one
must have something to close. Nothing is assumed of a markup that is neither accepted nor rejected: whether
it is drawn may even depend on what stands beside it. -/
structure ReadsMarkup (renderer : Renderer Fault) (accepted rejected : Text → Prop) : Prop where
  accepts : IgnoresFront accepted
  rejects : IgnoresFront rejected
  untagged {text : Text} (noTag : opensTag text = false) : accepted text
  unmatched {name : Text} (noOpening : '[' ∉ name) (noClosing : ']' ∉ name) (rest : Text) :
    rejected ('[' :: '/' :: (name ++ ']' :: rest))
  draws {drawing : Drawing} (readable : ∀ markup ∈ drawing.markups, accepted markup) :
    ∃ lines, renderer.draw drawing = .ok lines
  fails {drawing : Drawing} {markup : Text} (handed : markup ∈ drawing.markups)
    (unreadable : rejected markup) : ∃ fault, renderer.draw drawing = .error fault

namespace ReadsMarkup

variable (reads : renderer.ReadsMarkup accepted rejected)

include reads

theorem accepts_plain {text : Text} (plain : isPlain text = true) : accepted text :=
  reads.untagged (opensTag_of_isPlain plain)

theorem accepts_styled {style : String} {body : Text} (named : IsStyleName style.toList)
    (between : isPlain body = true) : accepted (styled style body) := by
  rw [← List.append_nil (styled style body)]
  exact reads.accepts.around named between (reads.untagged rfl)

theorem not_rejected {markup : Text} (readable : accepted markup) : ¬ rejected markup := by
  intro unreadable
  have single : (Drawing.lines markup).markups = [markup] := rfl
  obtain ⟨lines, drawn⟩ := reads.draws (single ▸ List.forall_mem_singleton.mpr readable)
  obtain ⟨fault, failed⟩ := reads.fails (single ▸ List.mem_singleton_self markup) unreadable
  cases drawn.symm.trans failed

theorem rejects_closing {markup : Text} (closing : ClosesNothing markup) : rejected markup := by
  obtain ⟨front, name, rest, before, noOpening, noClosing, rfl⟩ := closing
  exact reads.rejects.behind before (reads.unmatched noOpening noClosing rest)

end ReadsMarkup

end Renderer

end RouteReport.Console
