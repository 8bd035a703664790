import Harvest.Proofs.Output.Decode
import Harvest.Proofs.Store.Agreement

/-!
# Sinks in stores that agree

A sink looks at nothing of the store but what is along its path.  So in two stores that agree there
it is made, takes records and is finished alike: it becomes the same and succeeds in both or in
neither, and the stores agree behind it (`create_agree`, `saveAll_agree`).
-/

namespace Harvest.Output

open Store (Agree AgreeOk Covers change_agree makeFolders_agree)

variable {here : Location} {L : Location → Prop} {s t : Store} {path : FilePath}

/-! ### New sinks -/

theorem makeParent_agree (h : Agree here L s t) (hp : Covers here L path) :
    (makeParent s path).2 = (makeParent t path).2 ∧
      Agree here L (makeParent s path).1 (makeParent t path).1 := by
  obtain ⟨hsame, hagree⟩ := makeFolders_agree h hp.parent
  unfold makeParent
  cases hs : s.makeFolders path.parent with
  | mk s₁ failed =>
    cases ht : t.makeFolders path.parent with
    | mk t₁ failed' =>
      rw [hs, ht] at hsame hagree
      subst hsame
      cases failed with
      | none => exact ⟨rfl, hagree⟩
      | some fault => exact ⟨rfl, hagree⟩

theorem Lines.create_agree (h : Agree here L s t) (hp : Covers here L path) :
    (Lines.create s path).2 = (Lines.create t path).2 ∧
      Agree here L (Lines.create s path).1 (Lines.create t path).1 := by
  obtain ⟨hsame, hagree⟩ := makeParent_agree h hp
  unfold Lines.create
  cases hs : makeParent s path with
  | mk s₁ made =>
    cases ht : makeParent t path with
    | mk t₁ made' =>
      rw [hs, ht] at hsame hagree
      subst hsame
      cases made with
      | error e => exact ⟨rfl, hagree⟩
      | ok _ =>
        have hwrite : AgreeOk here L (s₁.write path []) (t₁.write path []) :=
          change_agree hagree hp _
        simp only
        generalize s₁.write path [] = x, t₁.write path [] = y at hwrite
        cases hwrite with
        | error fault => exact ⟨rfl, hagree⟩
        | ok hagree' => exact ⟨rfl, hagree'⟩

theorem Listing.create_agree (h : Agree here L s t) (hp : Covers here L path) (indent : Value) :
    (Listing.create s path indent).2 = (Listing.create t path indent).2 ∧
      Agree here L (Listing.create s path indent).1 (Listing.create t path indent).1 := by
  obtain ⟨hsame, hagree⟩ := makeParent_agree h hp
  unfold Listing.create
  cases hs : makeParent s path with
  | mk s₁ made =>
    cases ht : makeParent t path with
    | mk t₁ made' =>
      rw [hs, ht] at hsame hagree
      subst hsame
      cases made with
      | error e => exact ⟨rfl, hagree⟩
      | ok _ => exact ⟨rfl, hagree⟩

namespace Sink

/-- **New sinks are alike.** -/
theorem create_agree (h : Agree here L s t) (hp : Covers here L path) (form : Form)
    (indent : Value) :
    (Sink.create s form path indent).2 = (Sink.create t form path indent).2 ∧
      Agree here L (Sink.create s form path indent).1 (Sink.create t form path indent).1 := by
  cases form with
  | lines =>
    obtain ⟨hsame, hagree⟩ := Lines.create_agree h hp
    exact ⟨congrArg (Except.map lines) hsame, hagree⟩
  | listing =>
    obtain ⟨hsame, hagree⟩ := Listing.create_agree h hp indent
    exact ⟨congrArg (Except.map listing) hsame, hagree⟩

theorem path_of_create {form : Form} {indent : Value} {o : Sink}
    (h : (Sink.create s form path indent).2 = .ok o) : o.path = path := by
  obtain ⟨s₁, created, hcreate, ⟨e, rfl, -⟩ | ⟨sink, rfl, hfresh⟩⟩ :=
    create_cases s form path indent
  · rw [hcreate] at h
    cases h
  · rw [hcreate] at h
    cases h
    cases hfresh with
    | lines => rfl
    | listing => rfl

/-! ### Records -/

/-- Two operations have led to the same, in stores that agree. -/
structure AgreeAfter (here : Location) (L : Location → Prop) (a b : After Sink) : Prop where
  store : Agree here L a.store b.store
  sink_eq : a.sink = b.sink
  result_eq : a.result = b.result

theorem path_save (s : Store) (o : Sink) (record : Value) (item : Int) :
    (o.save s record item).sink.path = o.path := by
  cases o with
  | lines o =>
    simp only [Sink.save, Lines.save]
    cases line record with
    | error e => rfl
    | ok text =>
      simp only
      cases s.append o.path (Text.Utf8.encode (text ++ "\n")) with
      | error fault => rfl
      | ok s₁ => rfl
  | listing o =>
    simp only [Sink.save, Listing.save]
    cases line record with
    | error e => rfl
    | ok text => rfl

theorem save_agree (h : Agree here L s t) {o : Sink} (hp : Covers here L o.path) (record : Value)
    (item : Int) : AgreeAfter here L (o.save s record item) (o.save t record item) := by
  cases o with
  | lines o =>
    simp only [Sink.save, Lines.save]
    cases line record with
    | error e => exact ⟨h, rfl, rfl⟩
    | ok text =>
      have happend : AgreeOk here L (s.append o.path (Text.Utf8.encode (text ++ "\n")))
          (t.append o.path (Text.Utf8.encode (text ++ "\n"))) := change_agree h hp _
      simp only
      generalize s.append o.path _ = x, t.append o.path _ = y at happend
      cases happend with
      | error fault => exact ⟨h, rfl, rfl⟩
      | ok hagree => exact ⟨hagree, rfl, rfl⟩
  | listing o =>
    simp only [Sink.save]
    cases o.save record item with
    | mk o' result =>
      cases result with
      | error e => exact ⟨h, rfl, rfl⟩
      | ok _ => exact ⟨h, rfl, rfl⟩

theorem finish_agree (h : Agree here L s t) {o : Sink} (hp : Covers here L o.path) :
    AgreeAfter here L (o.finish s) (o.finish t) := by
  cases o with
  | lines o => exact ⟨h, rfl, rfl⟩
  | listing o =>
    have hwrite : AgreeOk here L (s.write o.path (Text.Utf8.encode o.render.1))
        (t.write o.path (Text.Utf8.encode o.render.1)) := change_agree h hp _
    simp only [Sink.finish, Listing.finish]
    generalize s.write o.path _ = x, t.write o.path _ = y at hwrite
    cases hwrite with
    | error fault => exact ⟨h, rfl, rfl⟩
    | ok hagree =>
      simp only
      cases o.render.2 with
      | error e => exact ⟨hagree, rfl, rfl⟩
      | ok _ => exact ⟨hagree, rfl, rfl⟩

/-- **Records are saved alike.** -/
theorem saveAll_agree (h : Agree here L s t) {o : Sink} (hp : Covers here L o.path)
    (records : List (Value × Int)) :
    AgreeAfter here L (o.saveAll s records) (o.saveAll t records) := by
  induction records generalizing s t o with
  | nil => exact finish_agree h hp
  | cons r records ih =>
    obtain ⟨record, item⟩ := r
    have hfirst := save_agree h hp record item
    -- the sink may have changed, but its path has not
    have hcovers : Covers here L (o.save t record item).sink.path := by rwa [path_save]
    simp only [Sink.saveAll, hfirst.result_eq, hfirst.sink_eq]
    cases (o.save t record item).result with
    | error e => exact hfirst
    | ok _ =>
      have hlater := ih hfirst.store hcovers
      exact ⟨hlater.store, hlater.sink_eq, hlater.result_eq⟩

end Sink

end Harvest.Output
