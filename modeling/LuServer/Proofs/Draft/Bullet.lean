/-
# What a bullet does

A bullet is rejected and changes nothing, or it does one of five things, by the block it
stands in: it is an utterance, a value or a synonym of a list, a child, or some phrases.
Everything about bullets is read off these cases.

* `Model.withMentions`: a model with what an utterance mentions.
* `Draft.Takes`: the cases.
* `Draft.takes_item`: there are no others.
-/
import LuServer.Draft

namespace LuServer

/-- The model with what the mentions of an utterance name. -/
def Model.withMentions (m : Model) (mentions : List Mention) : Model :=
  { m with
    labels := appendNew m.labels (Mention.labels mentions)
    patternReferences := m.patternReferences ++ Mention.references mentions }

/-- An intent with one more utterance. -/
def Intent.addUtterance (x : Intent) (content : Text) : Intent :=
  { x with utterances := x.utterances ++ [content] }

namespace Draft

/-- What can become of a draft and a bullet: the next draft, and a fault if the bullet is
rejected. -/
inductive Takes (d : Draft) (content : Text) : Draft × Option Fault → Prop
  | rejected (fault : Fault) : Takes d content (d, some fault)
  | utterance {i : Nat} {mentions : List Mention} (hblock : d.block = .intent i)
    (hmentions : Mention.all content = .ok mentions) :
    Takes d content
      ({ d with model := (d.model.withMentions mentions).modifyIntent i (·.addUtterance content) },
        none)
  | value {i : Nat} {v : Option Nat} {canonical : Text} (hblock : d.block = .list i v)
    (hcolon : content.dropLast? ':' = some canonical) (hcanonical : canonical.trim ≠ []) :
    Takes d content
      ({ d with
        model := d.model.modifyEntity i (·.addValue canonical.trim)
        block := .list i (some (d.valueCount i)) }, none)
  | synonym {i v : Nat} (hblock : d.block = .list i (some v))
    (hcolon : content.dropLast? ':' = none) (hcontent : content ≠ []) :
    Takes d content ({ d with model := d.model.modifyEntity i (·.addSynonym v content) }, none)
  | child {i : Nat} {c : Child} (hblock : d.block = .ml i) (hchild : Child.read content = .ok c) :
    Takes d content
      ({ d with
        model := ((d.model.ensureEntity c.name c.kind).1.modifyEntity
          (d.model.ensureEntity c.name c.kind).2 (·.addModifiers c.modifiers)).modifyEntity i
            (·.addChildren [c.name]) }, none)
  | phrases {i : Nat} (hblock : d.block = .phraseList i) (hitems : content.items ≠ []) :
    Takes d content ({ d with model := d.model.modifyEntity i (·.addPhrases content.items) }, none)

theorem takes_listItem {d : Draft} {i : Nat} {v : Option Nat} (hblock : d.block = .list i v)
    (content : Text) : d.Takes content (d.listItem i v content) := by
  unfold listItem
  split
  · next canonical hcolon =>
    split
    · exact .rejected _
    · next hcanonical => exact .value hblock hcolon hcanonical
  · next hcolon =>
    split
    · exact .rejected _
    · next hcontent =>
      cases v with
      | none => exact .rejected _
      | some v => exact .synonym hblock hcolon hcontent

/-- A bullet does one of these things. -/
theorem takes_item (d : Draft) (content : Text) : d.Takes content (d.item content) := by
  unfold item
  cases hblock : d.block with
  | outside => exact .rejected _
  | intent i =>
    dsimp only
    unfold Draft.utterance
    split
    · exact .rejected _
    · next mentions hmentions => exact .utterance hblock hmentions
  | list i v => exact takes_listItem hblock content
  | ml i =>
    dsimp only
    unfold Draft.child
    split
    · exact .rejected _
    · next c hchild => exact .child hblock hchild
  | phraseList i =>
    dsimp only
    unfold phrase
    split
    · exact .rejected _
    · next hitems => exact .phrases hblock hitems

end Draft

end LuServer
