import Harvest.Batch.Document
import Harvest.Proofs.Text.Base64
import Harvest.Proofs.Text.Utf8

/-!
# Carriers of markup

The same markup text can be carried by a record in several ways: as the text, alone or in a list, as
its UTF-8 bytes, or as the base64 text of these bytes.  What carries it may be the record itself or
may stand in the record under the name of the property, however that is spelled (`load_under`).
Every carrier that a source type knows is loaded as that one text (`load_of_carrier`).

A source of binary data takes a text for base64 first.  Markup is safe from that: a text that holds
the sign for less is no base64, whatever padding it has.
-/

namespace Harvest.Batch

open Text (Base64.decode_eq_none Base64.decode_encode Utf8.decode_encode Utf8.decodeLossy_encode)

/-! ### Binary data -/

/-- The base64 text of a markup text. -/
def base64Text (h : String) : String :=
  String.ofList (Text.Base64.encode (Text.Utf8.encode h))

theorem decodeBinary_bytes {v : Value} {h : String} (hv : v.binary? = some (Text.Utf8.encode h)) :
    decodeBinary v = some h := by
  cases v with
  | bytes bs =>
    cases hv
    simp only [decodeBinary, Value.binary?, Option.map_some, Utf8.decodeLossy_encode]
  | buffer bs =>
    cases hv
    simp only [decodeBinary, Value.binary?, Option.map_some, Utf8.decodeLossy_encode]
  | _ => cases hv

theorem decodeBinary_base64Text (h : String) : decodeBinary (.text (base64Text h)) = some h := by
  simp only [decodeBinary, base64Text, String.toList_ofList, Base64.decode_encode, Option.map_some,
    Utf8.decode_encode]

/-- Markup is not taken for base64. -/
theorem decodeBinary_markup {h : String} (hmem : '<' ∈ h.toList) :
    decodeBinary (.text h) = some h := by
  have hnone : Text.Base64.decode h.toList = none := Base64.decode_eq_none rfl (by decide) hmem
  simp only [decodeBinary, hnone, Option.map_none]

/-! ### Records -/

variable {d : Defaults} {v : Value} {h : String}

/-- A name that is spelled like the whole path comes first, so what stands under the name of the
property is found, whatever path the name spells. -/
theorem load_under (d : Defaults) (index : Nat) (v : Value) :
    load d index (.map [(d.property, v)]) = documents d v := by
  have hfound : Path.verbatim? (.map [(d.property, v)]) d.property = some v := by
    simp [Path.verbatim?, Entries.get?_cons]
  rw [load, markup, if_neg (by simp [isMarkup, Value.text?, Value.binary?]), Path.lookup, hfound]
  rfl

theorem load_bare (hv : isMarkup v = true) (index : Nat) : load d index v = documents d v := by
  rw [load, markup, if_pos hv]
  rfl

theorem documents_of_decodeBinary (ht : d.sourceType = .binary) (hv : decodeBinary v = some h) :
    documents d v = .ok [h] := by
  simp only [documents, ht, hv]

theorem documents_of_bytes (hv : v.binary? = some (Text.Utf8.encode h)) :
    documents d v = .ok [h] := by
  cases ht : d.sourceType with
  | binary => exact documents_of_decodeBinary ht (decodeBinary_bytes hv)
  | json => simp only [documents, ht, hv, Utf8.decodeLossy_encode]

theorem documents_of_text (ht : d.sourceType = .json) (hv : v.binary? = none)
    (hlist : v.toList = [.text h]) : documents d v = .ok [h] := by
  simp only [documents, ht, hv, hlist]
  rfl

/-- **Every carrier of a markup text is loaded as that text.**  With binary sources these are its
bytes, in either kind of binary data, and the base64 text of its bytes; and, if it holds the sign
for less, the text itself.  With the other sources these are the text, a list of nothing but the
text, and its bytes.  They may stand in a record under the name of the property, or be the record,
which a list cannot. -/
theorem load_of_carrier (d : Defaults) (index : Nat) (h : String) :
    let b := Text.Utf8.encode h
    let s := String.ofList (Text.Base64.encode b)
    let under (v : Value) : Value := .map [(d.property, v)]
    (d.sourceType = .binary →
      (∀ record ∈ [under (.bytes b), under (.buffer b), under (.text s), .bytes b, .buffer b,
          .text s], load d index record = .ok [h]) ∧
        ('<' ∈ h.toList →
          ∀ record ∈ [under (.text h), .text h], load d index record = .ok [h])) ∧
    (d.sourceType = .json →
      ∀ record ∈ [under (.text h), under (.list [.text h]), under (.bytes b), under (.buffer b),
          .text h, .bytes b, .buffer b], load d index record = .ok [h]) := by
  intro b s under
  -- a record that holds a carrier, or is one, has the documents of the carrier
  have hunder {v : Value} (hv : documents d v = .ok [h]) : load d index (under v) = .ok [h] :=
    (load_under d index v).trans hv
  have hbare {v : Value} (hm : isMarkup v = true) (hv : documents d v = .ok [h]) :
      load d index v = .ok [h] :=
    (load_bare hm index).trans hv
  have hbytes : documents d (.bytes b) = .ok [h] := documents_of_bytes rfl
  have hbuffer : documents d (.buffer b) = .ok [h] := documents_of_bytes rfl
  refine ⟨fun ht => ⟨?_, fun hmem => ?_⟩, fun ht => ?_⟩
  · have hs : documents d (.text s) = .ok [h] :=
      documents_of_decodeBinary ht (decodeBinary_base64Text h)
    simp only [List.forall_mem_cons]
    exact ⟨hunder hbytes, hunder hbuffer, hunder hs, hbare rfl hbytes, hbare rfl hbuffer,
      hbare rfl hs, by simp⟩
  · have hh : documents d (.text h) = .ok [h] :=
      documents_of_decodeBinary ht (decodeBinary_markup hmem)
    simp only [List.forall_mem_cons]
    exact ⟨hunder hh, hbare rfl hh, by simp⟩
  · have hh : documents d (.text h) = .ok [h] := documents_of_text ht rfl rfl
    have hlist : documents d (.list [.text h]) = .ok [h] := documents_of_text ht rfl rfl
    simp only [List.forall_mem_cons]
    exact ⟨hunder hh, hunder hlist, hunder hbytes, hunder hbuffer, hbare rfl hh, hbare rfl hbytes,
      hbare rfl hbuffer, by simp⟩

/-- A paragraph is carried by its bytes and by padded base64 text, under a name that spells a path
and would lead nowhere. -/
theorem load_of_carrier_accented :
    let d : Defaults := { sourceType := .binary, property := "pages[0].html" }
    d.sourceType = .binary ∧ '<' ∈ "<p>é".toList ∧ ({} : Defaults).sourceType = .json ∧
      load d 0 (.map [("pages[0].html", .text "PHA+w6k=")]) = .ok ["<p>é"] ∧
      load d 0 (.text "PHA+w6k=") = .ok ["<p>é"] ∧ load d 0 (.text "<p>é") = .ok ["<p>é"] ∧
      load {} 1 (.map [("data", .list [.text "<p>é"])]) = .ok ["<p>é"] := by
  intro d
  have hmem : '<' ∈ "<p>é".toList := by decide
  have hs : String.ofList (Text.Base64.encode (Text.Utf8.encode "<p>é")) = "PHA+w6k=" := by
    decide +kernel
  obtain ⟨hcarried, hmarkup⟩ := (load_of_carrier d 0 "<p>é").1 rfl
  rw [hs] at hcarried
  exact ⟨rfl, hmem, rfl, hcarried _ (by simp [d]), hcarried _ (by simp), hmarkup hmem _ (by simp),
    (load_of_carrier {} 1 "<p>é").2 rfl _ (by simp)⟩

end Harvest.Batch
