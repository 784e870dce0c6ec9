/-
# Stored documents

Whatever happened to a document before, the store holds it as if it had just been
opened with its last text and version.

* `replace_ofText`: a new version of a fresh document is a fresh document.
* `get?_run`: what the store holds after some changes.
* `rescan_history`: remembered modes are those of a scan, along every chain of texts
  and in every store.
-/
import LuServer.Document.Store
import LuServer.Proofs.Mode.Rescan
import Mathlib.Data.List.Induction

namespace LuServer

namespace Document

/-- A new version of a fresh document is a fresh document. -/
theorem replace_ofText (text next : Text) (version nextVersion : Int) :
    (ofText text version).replace next nextVersion = ofText next nextVersion := by
  simp only [replace, ofText, ModeCache.update_ofText]

/-- A fresh document answers as a scan of its text does. -/
theorem modeAt_ofText (text : Text) (version : Int) (n : Nat) :
    (ofText text version).modeAt n = Mode.classify text n :=
  ModeCache.modeAt_ofText text n

end Document

namespace StoreOp

/-- The document that a change is about. -/
def uri : StoreOp → Uri
  | .openDocument uri _ _ => uri
  | .update uri _ _ => uri
  | .close uri => uri

/-- The document that a change leaves, as if it had just been opened. -/
def document? : StoreOp → Option Document
  | .openDocument _ text version => some (.ofText text version)
  | .update _ text version => some (.ofText text version)
  | .close _ => none

end StoreOp

namespace Store

/-- The last change of a document. -/
def lastChange? (ops : List StoreOp) (uri : Uri) : Option StoreOp :=
  (ops.filter fun op => op.uri = uri).getLast?

theorem lastChange?_append (ops : List StoreOp) (op : StoreOp) (uri : Uri) :
    lastChange? (ops ++ [op]) uri = if op.uri = uri then some op else lastChange? ops uri := by
  rw [lastChange?, List.filter_append, lastChange?]
  by_cases h : op.uri = uri
  · simp [h]
  · simp [h]

theorem uri_of_lastChange? {ops : List StoreOp} {uri : Uri} {op : StoreOp}
    (h : lastChange? ops uri = some op) : op.uri = uri := by
  have hmem := List.mem_of_getLast? h
  exact of_decide_eq_true (List.mem_filter.mp hmem).2

/-- A change leaves its document fresh, if the document was fresh before, and no
other document changes. -/
theorem get?_apply (s : Store) (op : StoreOp) (uri : Uri)
    (hs : ∀ d, s.get? op.uri = some d → ∃ text version, d = .ofText text version) :
    (s.apply op).get? uri = if op.uri = uri then op.document? else s.get? uri := by
  cases op with
  | openDocument name text version =>
    rw [apply, openDocument, Table.get?_insert]
    simp only [StoreOp.uri, StoreOp.document?, eq_comm]
  | update name text version =>
    -- a document that is not open counts as empty
    have hfresh : ∃ old oldVersion,
        (s.get? name).getD (.ofText [] version) = Document.ofText old oldVersion := by
      cases hd : s.get? name with
      | none => exact ⟨[], version, rfl⟩
      | some d => exact hs d hd
    obtain ⟨old, oldVersion, hold⟩ := hfresh
    rw [apply, update, hold, Document.replace_ofText, Table.get?_insert]
    simp only [StoreOp.uri, StoreOp.document?, eq_comm]
  | close name =>
    rw [apply, close, Table.get?_erase]
    simp only [StoreOp.uri, StoreOp.document?, eq_comm]

theorem run_append (s : Store) (ops : List StoreOp) (op : StoreOp) :
    s.run (ops ++ [op]) = (s.run ops).apply op := by
  rw [run, run, List.foldl_append, List.foldl_cons, List.foldl_nil]

/-- The store holds what the last change of a document left. -/
theorem get?_run (ops : List StoreOp) (uri : Uri) :
    (run .empty ops).get? uri = (lastChange? ops uri).bind StoreOp.document? := by
  induction ops using List.reverseRecOn generalizing uri with
  | nil => rfl
  | append_singleton ops op ih =>
    have hfresh : ∀ d, (run .empty ops).get? op.uri = some d →
        ∃ text version, d = .ofText text version := by
      intro d hd
      rw [ih, Option.bind_eq_some_iff] at hd
      obtain ⟨last, _, hlast⟩ := hd
      cases last with
      | openDocument name text version => exact ⟨text, version, (Option.some.inj hlast).symm⟩
      | update name text version => exact ⟨text, version, (Option.some.inj hlast).symm⟩
      | close name => cases hlast
    rw [run_append, get?_apply _ _ _ hfresh, lastChange?_append, ih]
    by_cases h : op.uri = uri
    · rw [if_pos h, if_pos h, Option.bind_some]
    · rw [if_neg h, if_neg h]

/-- One more change leaves its document fresh, whatever the changes before it. -/
theorem get?_run_apply (ops : List StoreOp) (op : StoreOp) (uri : Uri) :
    ((run .empty ops).apply op).get? uri
      = if op.uri = uri then op.document? else (run .empty ops).get? uri := by
  rw [← run_append, get?_run, get?_run, lastChange?_append]
  by_cases h : op.uri = uri
  · rw [if_pos h, if_pos h, Option.bind_some]
  · rw [if_neg h, if_neg h]

/-- A document is not in the store exactly if its last change closed it or there was
none. -/
theorem get?_run_eq_none_iff (ops : List StoreOp) (uri : Uri) :
    (run .empty ops).get? uri = none ↔
      lastChange? ops uri = none ∨ lastChange? ops uri = some (.close uri) := by
  rw [get?_run]
  cases h : lastChange? ops uri with
  | none => simp
  | some op =>
    have huri := uri_of_lastChange? h
    cases op with
    | openDocument name text version => simp [StoreOp.document?]
    | update name text version => simp [StoreOp.document?]
    | close name =>
      obtain rfl : name = uri := huri
      simp [StoreOp.document?]

/-- A document in the store has the text and version of its last change, and is
fresh. -/
theorem lastChange?_of_get?_run {ops : List StoreOp} {uri : Uri} {d : Document}
    (h : (run .empty ops).get? uri = some d) :
    (lastChange? ops uri = some (.openDocument uri d.text d.version) ∨
      lastChange? ops uri = some (.update uri d.text d.version)) ∧
    d = .ofText d.text d.version := by
  rw [get?_run, Option.bind_eq_some_iff] at h
  obtain ⟨op, hop, hd⟩ := h
  have huri := uri_of_lastChange? hop
  cases op with
  | openDocument name text version =>
    obtain rfl : name = uri := huri
    obtain rfl := Option.some.inj hd
    exact ⟨Or.inl hop, rfl⟩
  | update name text version =>
    obtain rfl : name = uri := huri
    obtain rfl := Option.some.inj hd
    exact ⟨Or.inr hop, rfl⟩
  | close name => cases hd

/-- **Remembered modes are scanned modes.**  Along every chain of texts each cache
has one entry more than its text has lines, and answers every line as a scan does.
So does every stored document after any changes of the store: it has the text and
version of its last change, and a document is missing exactly if it was closed since. -/
theorem rescan_history :
    (∀ (ts : List Text) (i : Nat) (t : Text), ts[i]? = some t →
      ∃ cache : ModeCache, (ModeCache.versions ts)[i]? = some cache ∧
        cache.size = t.lineCount + 1 ∧
        ∀ n, cache.modeAt n = Mode.classify t n) ∧
    (∀ (ops : List StoreOp) (uri : Uri),
      ((run .empty ops).get? uri = none ↔
        lastChange? ops uri = none ∨ lastChange? ops uri = some (.close uri)) ∧
      ∀ d, (run .empty ops).get? uri = some d →
        (lastChange? ops uri = some (.openDocument uri d.text d.version) ∨
          lastChange? ops uri = some (.update uri d.text d.version)) ∧
        ∀ n, d.modeAt n = Mode.classify d.text n) := by
  constructor
  · intro ts i t ht
    refine ⟨.ofText t, ?_, ModeCache.size_ofText t, ModeCache.modeAt_ofText t⟩
    rw [ModeCache.versions_eq, List.getElem?_map, ht, Option.map_some]
  · intro ops uri
    refine ⟨get?_run_eq_none_iff ops uri, ?_⟩
    intro d hd
    obtain ⟨hlast, hfresh⟩ := lastChange?_of_get?_run hd
    refine ⟨hlast, ?_⟩
    intro n
    rw [hfresh]
    exact Document.modeAt_ofText d.text d.version n

end Store

end LuServer
