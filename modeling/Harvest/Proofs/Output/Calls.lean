import Harvest.Output.Sink
import Harvest.Proofs.Json.Refusal
import Harvest.Proofs.Store.Frame

/-!
# Calls behind a failed save

A sink is called again and again, to save a record or to be finished (`Sink.calls`), and a call may
fail.  A save fails when the record has no JSON form.  Such a save changes neither the store nor
what counts as saved.  Lines are then as if the call had not been made, but a list keeps the record
in its buffer, and from then on it cannot be finished.

So a failed save makes a difference to later calls exactly if the sink is a list that could have
been finished without it (`calls_of_failed_save_iff`).
-/

namespace Harvest.Output

/-- A call of a sink. -/
inductive Call where
  /-- A record is handed over. -/
  | save (record : Value) (item : Int)
  /-- The sink is finished. -/
  | finish

/-- What can be seen of some calls. -/
structure Seen where
  /-- Whether each of them succeeded. -/
  results : List (Except Error Unit)
  /-- The records saved behind them. -/
  saved : List Saved
  /-- The store behind them. -/
  store : Store

namespace Sink

/-- What a call leads to. -/
def call (s : Store) (o : Sink) : Call → After Sink
  | .save record item => o.save s record item
  | .finish => o.finish s

/-- What can be seen of some calls, one after the other, whether or not they succeed. -/
def calls (s : Store) (o : Sink) : List Call → Seen
  | [] => ⟨[], o.saved, s⟩
  | c :: cs =>
    let after := o.call s c
    let seen := after.sink.calls after.store cs
    { seen with results := after.result :: seen.results }

end Sink

/-! ### Lists with other buffers -/

namespace Listing

variable {s : Store} {o : Listing} {buffer buffer' : List Value}

/-- The list with another buffer. -/
def withBuffer (o : Listing) (buffer : List Value) : Listing :=
  { o with buffer }

/-- It makes no difference to the file which of two buffers a list has: the store refuses the file,
or the texts of both are the same, whatever is added to them. -/
def Interchangeable (s : Store) (o : Listing) (buffer buffer' : List Value) : Prop :=
  (∃ fault, ∀ content, s.write o.path content = .error fault) ∨
    ∀ more, (o.withBuffer (buffer ++ more)).render = (o.withBuffer (buffer' ++ more)).render

theorem Interchangeable.append (h : Interchangeable s o buffer buffer') (record : Value) :
    Interchangeable s o (buffer ++ [record]) (buffer' ++ [record]) := by
  refine h.imp id fun hrender more => ?_
  simpa only [List.append_assoc, List.singleton_append] using hrender (record :: more)

theorem Interchangeable.finish (h : Interchangeable s o buffer buffer') :
    (o.withBuffer buffer).finish s = (o.withBuffer buffer').finish s ∧
      Interchangeable ((o.withBuffer buffer').finish s).1 o buffer buffer' := by
  obtain ⟨fault, hwrite⟩ | hrender := h
  · have hfinish (buffer : List Value) :
        (o.withBuffer buffer).finish s = (s, .error (.store fault)) := by
      simp only [Listing.finish, withBuffer, hwrite]
    rw [hfinish, hfinish]
    exact ⟨rfl, .inl ⟨fault, hwrite⟩⟩
  · have hsame : (o.withBuffer buffer).render = (o.withBuffer buffer').render := by
      simpa only [List.append_nil] using hrender []
    refine ⟨?_, .inr hrender⟩
    simp only [Listing.finish, hsame]
    rfl

/-- **A call keeps buffers interchangeable**, and it succeeds with the one as with the other. -/
theorem Interchangeable.call (h : Interchangeable s o buffer buffer') (c : Call) :
    let after := (Sink.listing (o.withBuffer buffer)).call s c
    let after' := (Sink.listing (o.withBuffer buffer')).call s c
    after.result = after'.result ∧ after.store = after'.store ∧
      ∃ o₁ buffer₁ buffer₁', after.sink = .listing (withBuffer o₁ buffer₁) ∧
        after'.sink = .listing (withBuffer o₁ buffer₁') ∧
        Interchangeable after'.store o₁ buffer₁ buffer₁' := by
  cases c with
  | save record item =>
    simp only [Sink.call, Sink.save, Listing.save]
    cases line record with
    | error e => exact ⟨rfl, rfl, o, _, _, rfl, rfl, h.append record⟩
    | ok text =>
      exact ⟨rfl, rfl, { o with saved := o.saved ++ [⟨item, o.path, text.length⟩] }, _, _, rfl, rfl,
        h.append record⟩
  | finish =>
    obtain ⟨hsame, hafter⟩ := h.finish
    simp only [Sink.call, Sink.finish, hsame]
    cases hfinish : (o.withBuffer buffer').finish s with
    | mk s₁ result =>
      rw [hfinish] at hafter
      cases result with
      | error e => exact ⟨rfl, rfl, o, buffer, buffer', rfl, rfl, hafter⟩
      | ok _ => exact ⟨rfl, rfl, o, buffer, buffer', rfl, rfl, hafter⟩

/-- Whole runs of calls cannot tell interchangeable buffers apart. -/
theorem Interchangeable.calls (h : Interchangeable s o buffer buffer') (cs : List Call) :
    (Sink.listing (o.withBuffer buffer)).calls s cs =
      (Sink.listing (o.withBuffer buffer')).calls s cs := by
  induction cs generalizing s o buffer buffer' with
  | nil => rfl
  | cons c cs ih =>
    obtain ⟨hresult, hstore, o₁, buffer₁, buffer₁', hsink, hsink', h₁⟩ := h.call c
    simp only [Sink.calls, hresult, hstore, hsink, hsink', ih h₁]

/-! ### Lists with a record that has no JSON form -/

/-- A text that breaks off is not changed by more records. -/
theorem render_of_error {e : Error} (h : o.render.2 = .error e) (more : List Value) :
    (o.withBuffer (o.buffer ++ more)).render = o.render := by
  unfold render at h ⊢
  simp only [withBuffer]
  cases hl : layout o.indent with
  | error e' => rfl
  | ok l =>
    rw [hl] at h
    cases hw : Json.write l (.list o.buffer) with
    | error r => simp only [Json.write_append_of_error hw, hw]
    | ok text =>
      simp only [hw] at h
      cases h

/-- If a list cannot be finished, it makes no difference to keep one more record. -/
theorem interchangeable_of_finish_ne_ok (h : (o.finish s).2 ≠ .ok ()) (record : Value) :
    Interchangeable s o (o.buffer ++ [record]) o.buffer := by
  cases hw : s.write o.path (Text.Utf8.encode o.render.1) with
  | error fault => exact .inl ⟨fault, fun content => Store.change_eq_error hw _⟩
  | ok s₁ =>
    simp only [finish, hw] at h
    cases hr : o.render.2 with
    | ok _ => exact absurd hr h
    | error e =>
      -- both texts break off where the text of the buffer alone does
      refine .inr fun more => ?_
      rw [List.append_assoc, render_of_error hr, render_of_error hr]

theorem exists_misfit_of_line {record : Value} {e : Error} (h : line record = .error e) :
    ∃ misfit, Json.misfit? record = some misfit ∧ e = .ofMisfit misfit := by
  have hbreaks := Json.breaksAt_writeAt ⟨none⟩ 0 record
  unfold line Json.write at h
  cases hmisfit : Json.misfit? record with
  | none =>
    rw [hmisfit] at hbreaks
    obtain ⟨text, htext⟩ := hbreaks
    rw [htext] at h
    cases h
  | some misfit =>
    rw [hmisfit] at hbreaks
    obtain ⟨written, hwritten⟩ := hbreaks
    rw [hwritten] at h
    cases h
    exact ⟨misfit, rfl, rfl⟩

theorem misfitAll_of_render (h : o.render.2 = .ok ()) :
    ∃ l, layout o.indent = .ok l ∧ Json.misfitAll? o.buffer = none := by
  unfold render at h
  cases hl : layout o.indent with
  | error e =>
    rw [hl] at h
    cases h
  | ok l =>
    refine ⟨l, rfl, ?_⟩
    have hbreaks := Json.breaksAt_writeAt l 0 (.list o.buffer)
    rw [Json.misfit?] at hbreaks
    cases hmisfit : Json.misfitAll? o.buffer with
    | none => rfl
    | some misfit =>
      rw [hmisfit] at hbreaks
      obtain ⟨written, hwritten⟩ := hbreaks
      simp only [hl, Json.write, hwritten] at h
      cases h

/-- **A list that keeps a record without a JSON form cannot be finished**: it fails as the save of
the record did. -/
theorem finish_of_line_eq_error (h : (o.finish s).2 = .ok ()) {record : Value} {e : Error}
    (he : line record = .error e) :
    ((o.withBuffer (o.buffer ++ [record])).finish s).2 = .error e := by
  obtain ⟨misfit, hmisfit, rfl⟩ := exists_misfit_of_line he
  cases hw : s.write o.path (Text.Utf8.encode o.render.1) with
  | error fault =>
    simp only [finish, hw] at h
    cases h
  | ok s₁ =>
    simp only [finish, hw] at h
    -- the buffer has a JSON form, so the record is the first part without one
    obtain ⟨l, hl, hnone⟩ := misfitAll_of_render h
    have hbreaks := Json.breaksAt_writeAt l 0 (.list (o.buffer ++ [record]))
    rw [Json.misfit?, Json.misfitAll?_append, hnone, Json.misfitAll?, hmisfit] at hbreaks
    obtain ⟨written, hwritten⟩ := hbreaks
    have hrender : (o.withBuffer (o.buffer ++ [record])).render =
        (written, .error (.ofMisfit misfit)) := by
      simp only [render, withBuffer, hl, Json.write, hwritten]
    cases hw' : s.write o.path (Text.Utf8.encode written) with
    | error fault => cases hw.symm.trans (Store.change_eq_error hw' _)
    | ok s₂ =>
      simp only [finish, hrender]
      simp only [withBuffer, hw']

end Listing

/-! ### Failed saves -/

theorem result_finish_listing (s : Store) (o : Listing) :
    ((Sink.listing o).finish s).result = (o.finish s).2 := by
  simp only [Sink.finish]
  cases o.finish s with
  | mk s₁ result => cases result <;> rfl

/-- **A failed save.**  A record without a JSON form is refused: the store and the records that
count as saved stay the same.  Later calls are as if the save had not been tried, in their results,
in what they save and in the store, exactly unless the sink is a list that could have been finished.
-/
theorem calls_of_failed_save_iff (s : Store) (o : Sink) {record : Value} {e : Error}
    (h : line record = .error e) (item : Int) :
    let after := o.save s record item
    after.result = .error e ∧ after.store = s ∧ after.sink.saved = o.saved ∧
      ((∀ cs, after.sink.calls after.store cs = o.calls s cs) ↔
        ∀ list, o = .listing list → (list.finish s).2 ≠ .ok ()) := by
  cases o with
  | lines o =>
    simp only [Sink.save, Lines.save, h]
    refine ⟨trivial, trivial, trivial, fun _ list hlist => ?_, fun _ _ => trivial⟩
    cases hlist
  | listing o =>
    simp only [Sink.save, Listing.save, h]
    refine ⟨trivial, trivial, rfl, fun hsame list hlist hfinish => ?_, fun hfails cs => ?_⟩
    · cases hlist
      -- to finish both at once tells them apart
      have hresults := congrArg Seen.results (hsame [.finish])
      simp only [Sink.calls, Sink.call, result_finish_listing, hfinish, List.cons.injEq,
        and_true] at hresults
      cases (Listing.finish_of_line_eq_error hfinish h).symm.trans hresults
    · exact (Listing.interchangeable_of_finish_ne_ok (hfails o rfl) record).calls cs

/-- A record that holds bytes. -/
def binaryRecord : Value :=
  .map [("k", .bytes [0])]

/-- A new list in an empty folder, to which a record of bytes is handed. -/
theorem calls_of_failed_save_binary :
    let s := Store.empty ["work"]
    let o : Listing := { path := .ofText "out.json", indent := Listing.defaultIndent }
    let after := (Sink.listing o).save s binaryRecord 0
    line binaryRecord = .error (.unwritable "bytes") ∧ (o.finish s).2 = .ok () ∧
      after.result = .error (.unwritable "bytes") ∧ after.store = s ∧ after.sink.saved = [] ∧
      ¬ ∀ cs, after.sink.calls after.store cs = (Sink.listing o).calls s cs := by
  intro s o after
  have hline : line binaryRecord = .error (.unwritable "bytes") := rfl
  have hfinish : (o.finish s).2 = .ok () := by
    have hok : (o.finish s).2.isOk = true := by decide +kernel
    generalize (o.finish s).2 = result at hok
    cases result with
    | error e => cases hok
    | ok _ => rfl
  obtain ⟨hresult, hstore, hsaved, hiff⟩ := calls_of_failed_save_iff s (.listing o) hline 0
  exact ⟨hline, hfinish, hresult, hstore, hsaved, fun hsame => hiff.1 hsame o rfl hfinish⟩

/-- A list can be finished when no record was handed to it, and it cannot when a record of bytes was
refused before; then the file breaks off where the bytes should stand. -/
theorem finish_of_failed_binary_save :
    let s := Store.empty ["work"]
    let o := Sink.listing { path := .ofText "out.json", indent := Listing.defaultIndent }
    let seen := o.calls s [.finish]
    let seen' := o.calls s [.save binaryRecord 0, .finish]
    seen.results.map Except.isOk = [true] ∧
      seen.store.get? ["work", "out.json"] = some (.file (Text.Utf8.encode "[]")) ∧
      seen'.results.map Except.isOk = [false, false] ∧
      seen'.store.get? ["work", "out.json"] =
        some (.file (Text.Utf8.encode "[\n  \x7b\n    \"k\": ")) := by
  refine ⟨?_, ?_, ?_, ?_⟩ <;> decide +kernel

end Harvest.Output
