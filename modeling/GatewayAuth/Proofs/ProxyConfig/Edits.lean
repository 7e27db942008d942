import GatewayAuth.Proofs.Json.Edits
import GatewayAuth.Proofs.Json.Layout
import GatewayAuth.Proofs.ProxyConfig.Shapes
import Mathlib

/-!
# `GatewayAuth.Proofs.ProxyConfig.Edits` — a configuration depends only on the fields that it models

A configuration is read from the tree that a document spells. So the document may be spelled in any other way; members of
the objects that stand for records may come in any order, and among them any others. Without the member of a field the
field has its default.

## Contents
- `ProxyConfig.careful_envelope`: the reader of a configuration overlooks no fault.
- `ProxyConfig.Without`: documents without a field of the configuration.
- `ProxyConfig.ofEnvelope_of_edited`: what edits of a document do to the configuration.
-/

namespace GatewayAuth

open GatewayAuth.Json

/-! ## Readers of configurations are careful -/

theorem Timestamp.read_eq_ok_iff {depth : Nat} {v : Raw} {t : Timestamp} :
    Timestamp.read depth v = .ok t ↔ ∃ l s, v = .string l ∧ l.text = .ok s ∧ parse? s.toList = some t := by
  constructor
  · intro h
    cases v with
    | string l =>
        cases hl : l.text with
        | error f =>
            rw [Timestamp.read, hl] at h
            cases h
        | ok s =>
            rw [Timestamp.read, hl] at h
            cases ht : parse? s.toList with
            | none =>
                simp only [ht] at h
                cases h
            | some t' =>
                simp only [ht] at h
                cases h
                exact ⟨l, s, rfl, hl, ht⟩
    | _ => cases h
  · rintro ⟨l, s, rfl, hl, ht⟩
    simp only [Timestamp.read, hl, ht]

theorem Timestamp.careful_read : Careful Timestamp.read := by
  intro depth v t h
  obtain ⟨l, s, rfl, hl, -⟩ := Timestamp.read_eq_ok_iff.1 h
  exact Literal.skip_of_text hl

theorem BackendAddress.careful_shape : Careful shape.read :=
  Shape.careful (by simp [shape, textSlot, careful_readText])

theorem PolicyLink.careful_shape : Careful shape.read :=
  Shape.careful (by simp [shape, textSlot, careful_readText, careful_readValue])

theorem MappingRule.careful_shape : Careful shape.read :=
  Shape.careful (by
    simp [shape, textSlot, int64Slot, textsSlot, careful_readText, careful_readInt64, careful_readText.list])

theorem ProxySettings.careful_shape : Careful shape.read :=
  Shape.careful (by
    simp [shape, textSlot, int64Slot, textsSlot, careful_readText, careful_readInt64, careful_readText.list,
      careful_readText.optional, BackendAddress.careful_shape, PolicyLink.careful_shape.list,
      MappingRule.careful_shape.list])

theorem ServiceContent.careful_shape : Careful shape.read :=
  Shape.careful (by
    simp [shape, textSlot, int64Slot, timestampSlot, careful_readText, careful_readInt64,
      Timestamp.careful_read.optional, ProxySettings.careful_shape])

namespace ProxyConfig

theorem careful_shape : Careful shape.read :=
  Shape.careful (by simp [shape, textSlot, int64Slot, careful_readText, careful_readInt64, ServiceContent.careful_shape])

theorem careful_envelope : Careful envelope.read :=
  Shape.careful (by simp [envelope, careful_shape.map some])

/-- **A configuration is read from the tree that its document spells.** -/
theorem ofEnvelope_eq_ok_iff {text : String} {c : ProxyConfig} :
    ofEnvelope text = .ok c ↔ ∃ v, Document v text.toList ∧ envelope.read nestingLimit v = .ok (some c) := by
  have hcareful : Careful readEnvelope := fun depth v c h => careful_envelope depth v _ (readEnvelope_eq_ok_iff.1 h)
  rw [ofEnvelope, readDocument_eq_ok_iff hcareful]
  simp only [readEnvelope_eq_ok_iff]

/-! ## Edits -/

/-- Documents of which the second is the first without one field of the configuration, and what becomes of the
configuration. -/
inductive Without : Raw → Raw → (ProxyConfig → ProxyConfig) → Prop where
  | inObject (before : List (Literal × Raw)) {after : List (Literal × Raw)} {fault : Option Fault} {l : Literal}
      {v v' : Raw} {f : ProxyConfig → ProxyConfig} (hname : l.text = .ok "proxy_config")
      (edit : Removed shape.read v v' f) :
      Without (.object (before ++ (l, v) :: after) fault) (.object (before ++ (l, v') :: after) fault) f
  | inArray {fault : Option Fault} {v v' : Raw} {f : ProxyConfig → ProxyConfig} (edit : Removed shape.read v v' f) :
      Without (.array [v] fault) (.array [v'] fault) f

theorem Without.read_eq {v v' : Raw} {f : ProxyConfig → ProxyConfig} (h : Without v v' f) {depth : Nat} {c : ProxyConfig}
    (hc : envelope.read depth v = .ok (some c)) : envelope.read depth v' = .ok (some (f c)) := by
  -- the slot of the envelope passes the configuration on
  have hslot : ∀ {v v' : Raw}, Removed shape.read v v' f → ∀ d a, (shape.read d v).map some = .ok a →
      (shape.read d v').map some = .ok (a.map f) := by
    intro v v' edit d a ha
    obtain ⟨c, hc, rfl⟩ := map_eq_ok_iff.1 ha
    exact map_eq_ok_iff.2 ⟨f c, edit.read_eq hc, rfl⟩
  cases h with
  | inObject before hname edit =>
      exact Shape.read_member_replaced (x := envelope.slots.head (by decide)) List.mem_cons_self hname hc (hslot edit)
  | inArray edit => exact Shape.read_item_replaced (i := 0) rfl rfl hc (hslot edit)

/-- **A configuration depends only on the fields that it models.** -/
theorem ofEnvelope_of_edited {text : String} {c : ProxyConfig} (h : ofEnvelope text = .ok c) :
    ∃ v, Document v text.toList ∧
      (∀ v' text', Edited envelope.read v v' → Document v' text'.toList → ofEnvelope text' = .ok c) ∧
      ∀ v' text' f, Without v v' f → Document v' text'.toList → ofEnvelope text' = .ok (f c) := by
  obtain ⟨v, hv, hread⟩ := ofEnvelope_eq_ok_iff.1 h
  refine ⟨v, hv, fun v' text' edit hv' => ?_, fun v' text' f edit hv' => ?_⟩
  · exact ofEnvelope_eq_ok_iff.2 ⟨v', hv', edit.read_eq hread⟩
  · exact ofEnvelope_eq_ok_iff.2 ⟨v', hv', edit.read_eq hread⟩

/-- A document of two fields: with them in another order and beside a number that is no double, and with one of them. -/
theorem ofEnvelope_of_edited_twoFields :
    let c : ProxyConfig := { (default : ProxyConfig) with id := 7, version := 3 }
    ofEnvelope "\x7b\"proxy_config\":\x7b\"id\":7,\"version\":3\x7d\x7d" = .ok c ∧
      ofEnvelope "\x7b\"proxy_config\": \x7b\"far\":[1e999], \"version\":3, \"id\":7\x7d\x7d" = .ok c ∧
      ofEnvelope "\x7b\"proxy_config\":\x7b\"version\":3\x7d\x7d" = .ok { c with id := 0 } := by
  intro c
  have hread : ofEnvelope "\x7b\"proxy_config\":\x7b\"id\":7,\"version\":3\x7d\x7d" = .ok c := by cbv
  obtain ⟨v, hv, hedited, hwithout⟩ := ofEnvelope_of_edited hread
  have htree : v = .ofMembers [("proxy_config",
      .ofMembers [("id", .numeral (.of 7)), ("version", .numeral (.of 3))])] :=
    hv.unique (document_of_ofText (by cbv) rfl)
  subst htree
  refine ⟨hread, ?_, ?_⟩
  · have hdocument : Document (.ofMembers [("proxy_config", .ofMembers [
        ("far", .array [.numeral ⟨false, ['1'], [], some (false, ['9', '9', '9'])⟩] none),
        ("version", .numeral (.of 3)), ("id", .numeral (.of 7))])])
        "\x7b\"proxy_config\": \x7b\"far\":[1e999], \"version\":3, \"id\":7\x7d\x7d".toList :=
      document_of_ofText (by cbv) rfl
    obtain ⟨_, _, -, ⟨-, hvalue⟩, -⟩ : Document (.array [.numeral ⟨false, ['1'], [], some (false, ['9', '9', '9'])⟩] none)
        "[1e999]".toList :=
      document_of_ofText (by cbv) rfl
    refine hedited _ _ (.inMember envelope [] List.mem_cons_self (Literal.text_of _) ?_) hdocument
    exact .passedOn some (.further (.permuted shape (.swap _ _ _))
      (.inserted shape [] (Literal.text_of "far") (by decide) hvalue))
  · have hdocument : Document (.ofMembers [("proxy_config", .ofMembers [("version", .numeral (.of 3))])])
        "\x7b\"proxy_config\":\x7b\"version\":3\x7d\x7d".toList :=
      document_of_ofText (by cbv) rfl
    exact hwithout _ _ _ (.inObject [] (Literal.text_of _)
      (.member shape [] List.mem_cons_self (Literal.text_of _))) hdocument

/-- Members under any other name at all may not be there: a name has to be a text. -/
theorem not_ofEnvelope_of_anyName :
    ¬ ∀ (text text' : String) (c : ProxyConfig) (l : Literal) (v : Raw), ofEnvelope text = .ok c →
      Document (.ofMembers [("proxy_config", .object [] none)]) text.toList →
      Document (.ofMembers [("proxy_config", .object [(l, v)] none)]) text'.toList →
      (∀ name ∈ shape.known, l.text ≠ .ok name) → ofEnvelope text' = .ok c := by
  intro h
  have hread : ofEnvelope "\x7b\"proxy_config\":\x7b\"\\ud800\":1\x7d\x7d" = .ok default := by
    refine h "\x7b\"proxy_config\":\x7b\x7d\x7d" _ default ⟨[.code 0xd800], none⟩ (.numeral (.of 1)) (by cbv)
      (document_of_ofText (by cbv) rfl) (document_of_ofText (by cbv) rfl) fun name _ hname => ?_
    cases hname
  have hrefused : ofEnvelope "\x7b\"proxy_config\":\x7b\"\\ud800\":1\x7d\x7d" = .error (.text .malformed) := by cbv
  cases hrefused.symm.trans hread

end ProxyConfig

end GatewayAuth
