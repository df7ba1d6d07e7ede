import SessionOperator.Proofs.Child.Kind
import SessionOperator.Proofs.Kubernetes.Path
import SessionOperator.Proofs.Kubernetes.Whole

/-!
# Values without times

A value may be without times though there are times in its schema.  Then it is its own document.

* `Schema.holdsTime`: whether a time stands somewhere in a value;
* `Schema.encode_of_untimed`, `Schema.IsValue.isWhole_untimed`: values without times are written as they are, and are
  whole;
* `Schema.HasField.untimed`: where to look for times in a record;
* `Kubernetes.untimed_volume`: where to look for them in a volume.
-/

namespace SessionOperator

namespace Schema

mutual

/-- Whether a time stands somewhere in a value of the schema. -/
def holdsTime : Schema → Json → Bool
  | .time, _ | .microTime, _ => true
  | .list item, .arr items => items.any (holdsTime item)
  | .dict value, .obj content => content.any fun e => holdsTime value e.2
  | .record _ fields, .obj content => holdsTimeFields fields content
  | _, _ => false

def holdsTimeFields : List (String × Bool × Schema) → Dict Json → Bool
  | [], _ => false
  | (key, _, s) :: rest, content => (Dict.get? content key).any (holdsTime s) || holdsTimeFields rest content

end

variable {s t : Schema} {key : String} {required : Bool} {x : Json} {fields : List (String × Bool × Schema)}
  {content : Dict Json}

theorem holdsTimeFields_eq_false_iff : holdsTimeFields fields content = false ↔
    ∀ f ∈ fields, ∀ v, content.get? f.1 = some v → f.2.2.holdsTime v = false := by
  induction fields with
  | nil => simp [holdsTimeFields]
  | cons f rest ih => simp [holdsTimeFields, ih, Option.any_eq_false]

theorem holdsTime_record (name : String) (h : ∀ f ∈ fields, ∀ v, x.get? f.1 = some v → f.2.2.holdsTime v = false) :
    (record name fields).holdsTime x = false := by
  cases x with
  | obj content =>
    rw [holdsTime]
    exact holdsTimeFields_eq_false_iff.2 h
  | null | bool b | int n | float bits | str t | arr items => simp [holdsTime]

private theorem holdsTime_plain (h : s.isPlain = true) (x : Json) : s.holdsTime x = false := by
  cases s with
  | text | flag | int32 | int64 | intOrText | any | constant value => simp [holdsTime]
  | time | microTime | base64 | list item | dict value | record name fields => cases h

/-- No value of a schema without times holds one. -/
theorem holdsTime_timeless : ∀ s : Schema, s.isOrdered = true → s.isTimeless = true → ∀ x, s.holdsTime x = false :=
  induct {
    atom := by
      intro s hs htimeless x
      cases s with
      | text | flag | int32 | int64 | intOrText | any | constant value | base64 => simp [holdsTime]
      | time | microTime => cases htimeless
      | list item | dict value | record name fields => cases hs
    list := by
      intro item ih htimeless x
      rw [isTimeless] at htimeless
      cases x with
      | arr items => simp [holdsTime, ih htimeless]
      | null | bool b | int n | float bits | str t | obj content => simp [holdsTime]
    dict := by
      intro value hvalue _ x
      cases x with
      | obj content => simp [holdsTime, holdsTime_plain hvalue]
      | null | bool b | int n | float bits | str t | arr items => simp [holdsTime]
    record := by
      intro name fields _ ih htimeless x
      rw [isTimeless, isTimelessFields_iff] at htimeless
      exact holdsTime_record name fun f hf v _ => (ih f hf).2 (htimeless f hf) v
  }

/-- In a record there are times only in the fields in whose schemas there are times. -/
theorem HasField.untimed (hf : s.HasField key required t) (hs : s.isOrdered = true)
    (h : ∀ key ∈ s.timedFields, ∀ required t, s.HasField key required t →
      ∀ v, x.get? key = some v → t.holdsTime v = false) : s.holdsTime x = false := by
  obtain ⟨name, fields, rfl, -⟩ := hf
  refine holdsTime_record name fun f hf v hv => ?_
  cases htimeless : f.2.2.isTimeless with
  | true => exact holdsTime_timeless _ ((isOrdered_record hs).2 f hf) htimeless v
  | false =>
    have hkey : f.1 ∈ timedFields (.record name fields) :=
      List.mem_map.2 ⟨f, List.mem_filter.2 ⟨hf, by simp [htimeless]⟩, rfl⟩
    exact h f.1 hkey f.2.1 f.2.2 ⟨name, fields, rfl, hf⟩ v hv

/-- A value without times is its own document. -/
theorem encode_of_untimed : ∀ s : Schema, s.isOrdered = true → ∀ x, s.IsValue x → s.holdsTime x = false →
    s.encode x = x :=
  induct {
    atom := by
      intro s hs x _ huntimed
      cases s with
      | text | flag | int32 | int64 | intOrText | any | constant value => exact encode_plain rfl x
      | base64 => simp [encode]
      | time | microTime => simp [holdsTime] at huntimed
      | list item | dict value | record name fields => cases hs
    list := by
      rintro item ih x ⟨j, hx⟩ huntimed
      obtain ⟨items, xs, rfl, rfl, hall⟩ := decode_list_iff.1 hx
      rw [holdsTime, List.any_eq_false] at huntimed
      rw [encode]
      refine congrArg Json.arr ?_
      clear hx
      induction hall with
      | nil => rfl
      | cons hab _ ih' =>
        obtain ⟨hhead, htail⟩ := List.forall_mem_cons.1 huntimed
        rw [List.map_cons, ih _ ⟨_, hab⟩ (by simpa using hhead), ih' htail]
    dict := by
      rintro value hvalue x ⟨j, hx⟩ _
      obtain ⟨rfl, content, rfl⟩ := decode_dict_plain hvalue hx
      exact encode_dict_plain hvalue content
    record := by
      rintro name fields hsorted ih x ⟨j, hx⟩ huntimed
      obtain ⟨content, rfl⟩ := decode_record_shape hx
      obtain ⟨d, rfl, hrecord, hreads⟩ := (decode_record_iff hsorted).1 hx
      rw [holdsTime, holdsTimeFields_eq_false_iff] at huntimed
      rw [encode_record]
      refine congrArg Json.obj ((hrecord.encodeFields hsorted).ext hrecord fun f hf => ?_)
      rw [get?_encodeFields_of_mem hsorted hf]
      cases hv : d.get? f.1 with
      | none => rfl
      | some v =>
        obtain ⟨hordered, hencode⟩ := ih f hf
        have hvalue : f.2.2.IsValue v := Reads.isValue hordered (hv ▸ hreads f hf)
        rw [Option.map_some, hencode v hvalue (huntimed f hf v hv)]
  }

theorem IsValue.isWhole_untimed (hs : s.isOrdered = true) (h : s.IsValue x) (huntimed : s.holdsTime x = false) :
    s.IsWhole x :=
  h.isWhole hs (encode_of_untimed s hs x h huntimed)

end Schema

namespace Kubernetes

open Schema (HasField)

variable {v : Json}

theorem timedFields_volume : volume.timedFields = ["ephemeral"] := by
  decide +kernel

private theorem timedFields_ephemeral : ephemeralVolumeSource.timedFields = ["volumeClaimTemplate"] := by
  decide +kernel

private theorem hasField_ephemeral : volume.HasField "ephemeral" false ephemeralVolumeSource := .of_getElem? 9 rfl

private theorem hasField_claimTemplate :
    ephemeralVolumeSource.HasField "volumeClaimTemplate" false persistentVolumeClaimTemplate := .of_getElem? 0 rfl

/-- Where there are times in a volume, they stand in the template of a claim. -/
theorem untimed_volume (h : ∀ template, v.path? ["ephemeral", "volumeClaimTemplate"] = some template →
    persistentVolumeClaimTemplate.holdsTime template = false) : volume.holdsTime v = false := by
  have hsource := hasField_ephemeral.isOrdered volume_isOrdered
  refine hasField_ephemeral.untimed volume_isOrdered fun key hkey required t ht source hget => ?_
  rw [timedFields_volume, List.mem_singleton] at hkey
  subst hkey
  rw [ht.unique volume_isOrdered hasField_ephemeral]
  refine hasField_claimTemplate.untimed hsource fun key hkey required t ht template htemplate => ?_
  rw [timedFields_ephemeral, List.mem_singleton] at hkey
  subst hkey
  rw [ht.unique hsource hasField_claimTemplate]
  exact h template (by rw [Json.path?_cons_of_get? hget, Json.path?_singleton, htemplate])

end Kubernetes

end SessionOperator
