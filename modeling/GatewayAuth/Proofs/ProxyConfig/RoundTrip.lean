import GatewayAuth.CommandLine.Run
import GatewayAuth.Proofs.Json.Rereading
import GatewayAuth.Proofs.ProxyConfig.Edits
import GatewayAuth.Proofs.Timestamp

/-!
# `GatewayAuth.Proofs.ProxyConfig.RoundTrip` — a configuration that is printed is read again

What is printed of a configuration gives every slot of every record, in the fixed order of the slots. So it is read slot
by slot, down to leaves that are each written exactly. Between the levels of nesting that a configuration has by itself
and those that a document may have, a free-form value keeps the room in which it was read.

## Contents
- `ProxyConfig.restores_shape`: every record of a configuration is read as it was written.
- `ProxyConfig.ofEnvelope_printed`: what the command line prints is read as what was printed.
-/

namespace GatewayAuth

open GatewayAuth.Json

/-! ## The records of a configuration -/

theorem restores_timestamp (levels : Nat) : Restores (readOptional Timestamp.read) timestampValue levels none := by
  refine Restores.optional (fun t => .string t.render) (fun depth _ v t ht _ => ?_) rfl (fun _ => rfl)
    (fun _ => Raw.noConfusion)
  obtain ⟨_, _, -, -, hparse⟩ := Timestamp.read_eq_ok_iff.1 ht
  refine Timestamp.read_eq_ok_iff.2 ⟨Literal.of t.render, t.render, rfl, Literal.text_of _, ?_⟩
  rw [Timestamp.render, String.toList_ofList]
  exact Timestamp.parse?_chars (Timestamp.valid_of_parse? hparse)

theorem restores_optionalText (levels : Nat) : Restores (readOptional readText) Value.optional levels none :=
  Restores.optional .string (restores_text levels "").given rfl (fun _ => rfl) (fun _ => Raw.noConfusion)

theorem restores_texts (levels : Nat) : Restores (readList readText) textsValue (levels + 1) [] :=
  (restores_text levels "").list

theorem BackendAddress.restores_shape (levels : Nat) : Restores shape.read shape.write (levels + 1) default :=
  Shape.restores (by
    simp only [shape, List.forall_mem_cons]
    exact ⟨restores_text _ _, restores_text _ _, fun _ h => absurd h List.not_mem_nil⟩)

theorem PolicyLink.restores_shape (levels : Nat) : Restores shape.read shape.write (levels + 1) default :=
  Shape.restores (by
    simp only [shape, List.forall_mem_cons]
    exact ⟨restores_text _ _, restores_text _ _, restores_value _, fun _ h => absurd h List.not_mem_nil⟩)

theorem MappingRule.restores_shape (levels : Nat) : Restores shape.read shape.write (levels + 2) default :=
  Shape.restores (by
    simp only [shape, List.forall_mem_cons]
    exact ⟨restores_int64 _ _, restores_text _ _, restores_text _ _, restores_int64 _ _, restores_text _ _,
      restores_int64 _ _, restores_texts _, fun _ h => absurd h List.not_mem_nil⟩)

theorem ProxySettings.restores_shape (levels : Nat) : Restores shape.read shape.write (levels + 4) default :=
  Shape.restores (by
    simp only [shape, List.forall_mem_cons]
    exact ⟨restores_int64 _ _, restores_int64 _ _, restores_text _ _, restores_text _ _, restores_text _ _,
      restores_text _ _, restores_text _ _, restores_text _ _, restores_text _ _, restores_text _ _,
      restores_text _ _, restores_int64 _ _, restores_text _ _, restores_int64 _ _, restores_text _ _,
      restores_int64 _ _, restores_optionalText _, restores_int64 _ _, restores_texts _,
      BackendAddress.restores_shape _, (PolicyLink.restores_shape _).list, (MappingRule.restores_shape _).list,
      fun _ h => absurd h List.not_mem_nil⟩)

theorem ServiceContent.restores_shape (levels : Nat) : Restores shape.read shape.write (levels + 5) default :=
  Shape.restores (by
    simp only [shape, List.forall_mem_cons]
    exact ⟨restores_int64 _ _, restores_int64 _ _, restores_text _ _, restores_text _ _, restores_text _ _,
      restores_text _ _, restores_text _ _, restores_text _ _, restores_timestamp _, restores_timestamp _,
      ProxySettings.restores_shape _, fun _ h => absurd h List.not_mem_nil⟩)

namespace ProxyConfig

/-- **A configuration is read as it was written.** -/
theorem restores_shape (levels : Nat) : Restores shape.read shape.write (levels + 6) default :=
  Shape.restores (by
    simp only [shape, List.forall_mem_cons]
    exact ⟨restores_int64 _ _, restores_int64 _ _, restores_text _ _, ServiceContent.restores_shape _,
      fun _ h => absurd h List.not_mem_nil⟩)

/-- The configuration in an envelope that is read. -/
theorem exists_of_read_envelope {depth : Nat} {v : Raw} {c : ProxyConfig} (h : envelope.read depth v = .ok (some c)) :
    ∃ d w, depth = d + 1 ∧ shape.read d w = .ok c := by
  -- without a value for its slot an envelope is empty
  have hslot : ∀ {d : Nat} {value? : Option Raw},
      Stands (fun w => (shape.read d w).map some) value? none (some c) → ∃ w, shape.read d w = .ok c := by
    intro d value? hstands
    cases value? with
    | none => cases hstands
    | some w =>
        obtain ⟨_, hw, ⟨⟩⟩ := map_eq_ok_iff.1 hstands
        exact ⟨w, hw⟩
  obtain ⟨d, rfl, ⟨members, rfl⟩ | ⟨items, rfl⟩⟩ := Shape.exists_of_read h
  · obtain ⟨w, hw⟩ := hslot ((Shape.read_object_iff.1 h).2.2 _ List.mem_cons_self)
    exact ⟨d, w, rfl, hw⟩
  · obtain ⟨w, hw⟩ := hslot ((Shape.read_array_iff.1 h).2.2 0 _ rfl)
    exact ⟨d, w, rfl, hw⟩

/-- A configuration that has been read from an envelope is read from one again. -/
theorem rereads_envelope {depth : Nat} (hdepth : 7 ≤ depth) {v : Raw} {c : ProxyConfig}
    (h : envelope.read depth v = .ok (some c)) : Rereads envelope.read envelope.write depth (some c) := by
  obtain ⟨d, w, rfl, hw⟩ := exists_of_read_envelope h
  refine Shape.rereads fun x hx => ?_
  obtain rfl := List.mem_singleton.1 hx
  exact fun hfree => map_eq_ok_iff.2 ⟨c, (restores_shape 0).given d (by omega) w c hw hfree, rfl⟩

/-! ## Doubles -/

theorem optional_floatFree (s? : Option String) : (Value.optional s?).FloatFree := by
  cases s? with
  | none => trivial
  | some s => trivial

theorem list_floatFree {α : Type} {write : α → Value} {as : List α} (h : ∀ a ∈ as, (write a).FloatFree) :
    (Value.array (as.map write)).FloatFree := by
  refine itemsFloatFree_iff.2 fun v hv => ?_
  obtain ⟨a, ha, rfl⟩ := List.mem_map.1 hv
  exact h a ha

/-- The only doubles in a configuration are those of its policies. -/
theorem toValue_floatFree {c : ProxyConfig}
    (h : ∀ link ∈ c.content.proxy.policyChain, link.configuration.FloatFree) : c.toValue.FloatFree := by
  have htexts : ∀ texts, (textsValue texts).FloatFree := fun texts => list_floatFree fun _ _ => trivial
  have hlinks : (Value.array (c.content.proxy.policyChain.map PolicyLink.toValue)).FloatFree :=
    list_floatFree fun link hlink => ⟨trivial, trivial, h link hlink, trivial⟩
  have hrules : (Value.array (c.content.proxy.proxyRules.map MappingRule.toValue)).FloatFree :=
    list_floatFree fun rule _ => ⟨trivial, trivial, trivial, trivial, trivial, trivial, htexts _, trivial⟩
  have hproxy : c.content.proxy.toValue.FloatFree :=
    ⟨trivial, trivial, trivial, trivial, trivial, trivial, trivial, trivial, trivial, trivial, trivial, trivial, trivial,
      trivial, trivial, trivial, optional_floatFree _, trivial, htexts _, ⟨trivial, trivial, trivial⟩, hlinks, hrules,
      trivial⟩
  have hcontent : c.content.toValue.FloatFree :=
    ⟨trivial, trivial, trivial, trivial, trivial, trivial, trivial, trivial, optional_floatFree _, optional_floatFree _,
      hproxy, trivial⟩
  exact ⟨trivial, trivial, trivial, hcontent, trivial⟩

/-! ## Printing -/

/-- What the command line prints of a configuration. -/
def printed (c : ProxyConfig) : String := (CommandLine.endingOf (.fetched (.ok c))).output

/-- A text as the only member of an envelope. -/
def enveloped (text : String) : String := "\x7b\"proxy_config\": " ++ text ++ "\x7d"

theorem toRaw_envelope (c : ProxyConfig) :
    (envelope.write (some c)).toRaw = .ofMembers [("proxy_config", c.toValue.toRaw)] := by
  rw [Shape.toRaw_write, toValue_eq_shape]
  rfl

theorem toList_printed (c : ProxyConfig) : (printed c).toList = c.toValue.indentedChars 0 ++ ['\n'] := by
  have hprinted : printed c = String.ofList (c.toValue.indentedChars 0) ++ "\n" := rfl
  have hline : "\n".toList = ['\n'] := by decide
  rw [hprinted, String.toList_append, String.toList_ofList, hline]

theorem toList_enveloped_eq (text : String) :
    (enveloped text).toList = "\x7b\"proxy_config\": ".toList ++ text.toList ++ "\x7d".toList := by
  have happend : ∀ a b c : String, (a ++ b ++ c).toList = a.toList ++ b.toList ++ c.toList := by
    intro a b c
    rw [String.toList_append, String.toList_append]
  exact happend _ _ _

theorem toList_enveloped (c : ProxyConfig) :
    (enveloped (printed c)).toList = '\x7b' :: '"' :: ("proxy_config".toList.flatMap escapedChars ++
      '"' :: ':' :: ' ' :: (c.toValue.indentedChars 0 ++ ['\n', '\x7d'])) := by
  have hfront : "\x7b\"proxy_config\": ".toList =
      '\x7b' :: '"' :: ("proxy_config".toList.flatMap escapedChars ++ ['"', ':', ' ']) := by cbv
  have hback : "\x7d".toList = ['\x7d'] := by decide
  rw [toList_enveloped_eq, toList_printed, hfront, hback]
  simp only [List.append_assoc, List.cons_append, List.nil_append]

/-- A printed configuration in an envelope is the text of the tree of an envelope. -/
theorem document_enveloped {c : ProxyConfig} (hfree : c.toValue.FloatFree) :
    Document (envelope.write (some c)).toRaw (enveloped (printed c)).toList := by
  have hline : Blanks ['\n'] := fun d hd => List.mem_singleton.1 hd ▸ rfl
  have hmember := SpellsMembers.last blanks_nil (Literal.spelled "proxy_config") blanks_nil
    (SpellsAfter.mk blanks_space (c.toValue.spelled 0 hfree)) hline
  simp only [List.append_assoc, List.cons_append, List.nil_append] at hmember
  rw [toRaw_envelope, toList_enveloped]
  exact ⟨_, [], (List.append_nil _).symm, (Spells.object hmember).after, blanks_nil⟩

/-- **A printed configuration is read as what was printed.** -/
theorem ofEnvelope_printed {text : String} {c : ProxyConfig} (h : ofEnvelope text = .ok c)
    (hfree : ∀ link ∈ c.content.proxy.policyChain, link.configuration.FloatFree) :
    ofEnvelope (enveloped (printed c)) = .ok c ∧
      ∀ c', ofEnvelope (enveloped (printed c)) = .ok c' → printed c' = printed c := by
  have hfree := toValue_floatFree hfree
  obtain ⟨v, -, hread⟩ := ofEnvelope_eq_ok_iff.1 h
  have hprinted : ofEnvelope (enveloped (printed c)) = .ok c := by
    refine ofEnvelope_eq_ok_iff.2 ⟨_, document_enveloped hfree, ?_⟩
    exact rereads_envelope (by decide) hread ⟨hfree, trivial⟩
  refine ⟨hprinted, fun c' hc' => ?_⟩
  rw [Except.ok.inj (hprinted.symm.trans hc')]

/-- Fields in order, escapes, an instant with an offset in a leap second, and a free-form value. -/
theorem ofEnvelope_printed_leapSecond :
    ∃ c : ProxyConfig,
      ofEnvelope ("\x7b\"proxy_config\":[7,3,\"\\u00e9\\n\",\x7b\"created_at\":\"2016-12-31t23:59:60.5+01:00\"," ++
        "\"proxy\":\x7b\"policy_chain\":[\x7b\"configuration\":\x7b\"b\":[null,-1],\"a\":\"x\"\x7d\x7d]\x7d\x7d]\x7d") =
          .ok c ∧
        (∀ link ∈ c.content.proxy.policyChain, link.configuration.FloatFree) ∧
        ofEnvelope (enveloped (printed c)) = .ok c := by
  have hprinted : ∀ {text : String} {c : ProxyConfig}, ofEnvelope text = .ok c →
      (∀ link ∈ c.content.proxy.policyChain, link.configuration.FloatFree) →
      ofEnvelope text = .ok c ∧ (∀ link ∈ c.content.proxy.policyChain, link.configuration.FloatFree) ∧
        ofEnvelope (enveloped (printed c)) = .ok c :=
    fun h hfree => ⟨h, hfree, (ofEnvelope_printed h hfree).1⟩
  refine ⟨⟨7, 3, "é\n", { (default : ServiceContent) with
    createdAt := some ⟨2016, 12, 31, 22, 59, 60, 500000000⟩
    proxy := { (default : ProxySettings) with
      policyChain := [⟨"", "", .object [("a", .string "x"), ("b", .array [.null, .int (-1)])]⟩] } }⟩,
    hprinted (by cbv) fun link hlink => ?_⟩
  cases List.mem_singleton.1 hlink
  exact ⟨trivial, ⟨trivial, trivial, trivial⟩, trivial⟩

end ProxyConfig

end GatewayAuth
