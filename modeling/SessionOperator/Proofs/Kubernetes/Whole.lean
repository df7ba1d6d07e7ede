import SessionOperator.Proofs.Kubernetes.Value

/-!
# Values that survive being written

A value is whole if it is read back from its own document, that is, if no time in it has more digits than documents
carry.  Values are whole where the schema has no times, and where the document that was read had been written before.

* `Schema.IsWhole`, `Schema.IsValue.isWhole`: the whole values; what was read is whole if writing it cuts nothing;
* `Schema.conforms_of_decode`: what was read reads as itself;
* `Schema.ReadsWhole`: the documents of which only whole values are read;
* `Schema.readsWhole_timeless`, `Schema.readsWhole_encode`: schemas without times, and documents that were written;
* `Schema.ReadsWhole.list`, `Schema.ReadsWhole.record`: lists and records of such documents.
-/

namespace SessionOperator

namespace Schema

variable {name : String} {fields : List (String × Bool × Schema)} {required : Bool} {s t : Schema} {key : String}
  {j x w : Json} {v o : Option Json} {d : Dict Json}

/-- A value that is read back from its own document. -/
def IsWhole (s : Schema) (x : Json) : Prop := s.decode (s.encode x) = .ok x

/-- A document of which only whole values are read. -/
def ReadsWhole (s : Schema) (w : Json) : Prop := ∀ x, s.decode w = .ok x → s.IsWhole x

mutual

/-- There are no times in the values of the schema. -/
def isTimeless : Schema → Bool
  | .time | .microTime => false
  | .list item => isTimeless item
  | .dict value => isTimeless value
  | .record _ fields => isTimelessFields fields
  | _ => true

def isTimelessFields : List (String × Bool × Schema) → Bool
  | [] => true
  | (_, _, s) :: rest => isTimeless s && isTimelessFields rest

end

/-- The fields of a record in whose values there may be times. -/
def timedFields : Schema → List String
  | .record _ fields => (fields.filter fun f => !f.2.2.isTimeless).map (·.1)
  | _ => []

theorem isTimelessFields_iff : isTimelessFields fields = true ↔ ∀ f ∈ fields, f.2.2.isTimeless = true := by
  induction fields with
  | nil => simp [isTimelessFields]
  | cons f rest ih => simp [isTimelessFields, ih]

theorem isTimeless_of_isPlain (h : s.isPlain = true) : s.isTimeless = true := by
  cases s with
  | text | flag | int32 | int64 | intOrText | any | constant value => rfl
  | time | microTime | base64 | list item | dict value | record name fields => cases h

/-! ### Reading again -/

private theorem encode_null (s : Schema) : s.encode .null = .null := by
  cases s <;> simp [encode, rewriteTime]

/-- What a field holds is what it would hold if it were stated in the document as it is. -/
private theorem Reads.self (hs : s.isOrdered = true) (hself : ∀ j x, s.decode j = .ok x → s.Conforms x)
    (h : Reads required s v o) : Reads required s o o := by
  unfold Reads at h
  split at h
  · rename_i value hvalue
    obtain ⟨x, hx, rfl⟩ := h
    have hstated : stated? required s (some x) = some x := by
      by_cases hnull : x = .null
      · have hencode := stated?_encode hx hvalue
        rwa [hnull, encode_null, ← hnull] at hencode
      · exact stated?_of_not_null (.inl hnull)
    rw [Reads, hstated]
    exact ⟨x, hself value x hx, rfl⟩
  · exact reads_of_zero (fun z hz => (decode_zero s hs z hz).1) h.1 h.2

theorem conforms_of_decode : ∀ s : Schema, s.isOrdered = true → ∀ j x, s.decode j = .ok x → s.Conforms x :=
  induct {
    atom := by
      intro s hs j x hx
      unfold Conforms
      cases s with
      | text | flag | int32 | int64 | intOrText | any | constant value =>
        obtain rfl := decode_plain rfl hx
        exact hx
      | time | microTime =>
        obtain ⟨t, rfl⟩ := decodeTime_eq_ok hx
        rw [decode, decodeTime, Instant.parseLenient_write, Instant.cut_exact]
      | base64 => exact (decodeBase64_eq_ok hx).1
      | list item | dict value | record name fields => cases hs
    list := by
      intro item ih j x hx
      obtain ⟨items, xs, rfl, rfl, hall⟩ := decode_list_iff.1 hx
      refine decode_list_iff.2 ⟨xs, xs, rfl, rfl, ?_⟩
      clear hx
      induction hall with
      | nil => exact .nil
      | cons hab _ ih' => exact .cons (ih _ _ hab) ih'
    dict := by
      intro value hvalue j x hx
      obtain ⟨rfl, -⟩ := decode_dict_plain hvalue hx
      exact hx
    record := by
      intro name fields hsorted ih j x hx
      obtain ⟨content, rfl⟩ := decode_record_shape hx
      obtain ⟨d, rfl, hrecord, hreads⟩ := (decode_record_iff hsorted).1 hx
      exact (decode_record_iff hsorted).2 ⟨d, rfl, hrecord, fun f hf => (hreads f hf).self (ih f hf).1 (ih f hf).2⟩
  }

/-- A value of which nothing is cut when it is written is whole. -/
theorem IsValue.isWhole (hs : s.isOrdered = true) (h : s.IsValue x) (hencode : s.encode x = x) : s.IsWhole x := by
  obtain ⟨j, hx⟩ := h
  rw [IsWhole, hencode]
  exact conforms_of_decode s hs j x hx

/-- Only where anything may stand, `null` is written. -/
theorem IsWhole.encode_ne_null (h : s.IsWhole x) (hs : s ≠ .any) : s.encode x ≠ .null :=
  fun hnull => hs (eq_any_of_encode_null h hnull).1

/-! ### Lists and records -/

theorem IsWhole.list {item : Schema} {values : List Json} (h : ∀ v ∈ values, item.IsWhole v) :
    (list item).IsWhole (.arr values) := by
  rw [IsWhole, encode]
  exact decode_list_iff.2 ⟨_, values, rfl, rfl, List.forall₂_map_left_iff.2 (List.forall₂_same.2 h)⟩

/-- A field is read back from its document if only whole values are read of what was stated there. -/
theorem Reads.reread (hs : s.isOrdered = true) (h : Reads required s v o)
    (hv : ∀ value, v = some value → s.ReadsWhole value) : Reads required s (o.map s.encode) o := by
  unfold Reads at h
  split at h
  · rename_i value hvalue
    obtain ⟨x, hx, rfl⟩ := h
    rw [Option.map_some, Reads, stated?_encode hx hvalue]
    exact ⟨x, hv value (stated?_eq_some hvalue).1 x hx, rfl⟩
  · exact reads_encode_zero hs h.1 h.2

/-- A record is whole if its fields are read back from its document. -/
theorem isWhole_record (hsorted : Dict.Sorted fields) (hrecord : IsRecord fields d)
    (h : ∀ f ∈ fields, Reads f.2.1 f.2.2 ((d.get? f.1).map f.2.2.encode) (d.get? f.1)) :
    (record name fields).IsWhole (.obj d) := by
  rw [IsWhole, encode_record]
  refine (decode_record_iff hsorted).2 ⟨d, rfl, hrecord, fun f hf => ?_⟩
  rw [get?_encodeFields_of_mem hsorted hf]
  exact h f hf

theorem ReadsWhole.list {item : Schema} {items : List Json} (h : ∀ w ∈ items, item.ReadsWhole w) :
    (list item).ReadsWhole (.arr items) := by
  intro x hx
  obtain ⟨ws, xs, hws, rfl, hall⟩ := decode_list_iff.1 hx
  cases hws
  rw [IsWhole, encode]
  refine decode_list_iff.2 ⟨_, xs, rfl, rfl, ?_⟩
  clear hx
  induction hall with
  | nil => exact .nil
  | cons hab _ ih =>
    obtain ⟨hhead, htail⟩ := List.forall_mem_cons.1 h
    exact .cons (hhead _ hab) (ih htail)

theorem readsWhole_timeless : ∀ s : Schema, s.isOrdered = true → s.isTimeless = true → ∀ w, s.ReadsWhole w :=
  induct {
    atom := by
      intro s hs htimeless w x hx
      cases s with
      | text | flag | int32 | int64 | intOrText | any | constant value =>
        obtain rfl := decode_plain rfl hx
        rwa [IsWhole, encode_plain rfl]
      | time | microTime => cases htimeless
      | base64 =>
        obtain ⟨hx', t, rfl⟩ := decodeBase64_eq_ok hx
        exact hx'
      | list item | dict value | record name fields => cases hs
    list := by
      intro item ih htimeless w x hx
      obtain ⟨items, -, rfl, -⟩ := decode_list_iff.1 hx
      rw [isTimeless] at htimeless
      exact ReadsWhole.list (fun w _ => ih htimeless w) x hx
    dict := by
      intro value hvalue htimeless w x hx
      obtain ⟨rfl, d, rfl⟩ := decode_dict_plain hvalue hx
      rwa [IsWhole, encode_dict_plain hvalue]
    record := by
      intro name fields hsorted ih htimeless w x hx
      rw [isTimeless, isTimelessFields_iff] at htimeless
      obtain ⟨content, rfl⟩ := decode_record_shape hx
      obtain ⟨d, rfl, hrecord, hreads⟩ := (decode_record_iff hsorted).1 hx
      exact isWhole_record hsorted hrecord fun f hf =>
        (hreads f hf).reread (ih f hf).1 fun value _ => (ih f hf).2 (htimeless f hf) value
  }

theorem IsValue.isWhole_timeless (hs : s.isOrdered = true) (htimeless : s.isTimeless = true) (h : s.IsValue x) :
    s.IsWhole x := by
  obtain ⟨j, hx⟩ := h
  exact readsWhole_timeless s hs htimeless j x hx

/-- Only whole values are read of a record whose times stand in fields of which only whole values are read. -/
theorem ReadsWhole.record (hf : s.HasField key required t) (hs : s.isOrdered = true)
    (h : ∀ key ∈ s.timedFields, ∀ required t, s.HasField key required t →
      ∀ value, w.get? key = some value → t.ReadsWhole value) : s.ReadsWhole w := by
  obtain ⟨name, fields, rfl, -⟩ := hf
  obtain ⟨hsorted, hordered⟩ := isOrdered_record hs
  intro x hx
  obtain ⟨content, rfl⟩ := decode_record_shape hx
  obtain ⟨d, rfl, hrecord, hreads⟩ := (decode_record_iff hsorted).1 hx
  refine isWhole_record hsorted hrecord fun f hf => (hreads f hf).reread (hordered f hf) fun value hvalue => ?_
  cases htimeless : f.2.2.isTimeless with
  | true => exact readsWhole_timeless _ (hordered f hf) htimeless value
  | false =>
    have hkey : f.1 ∈ timedFields (.record name fields) :=
      List.mem_map.2 ⟨f, List.mem_filter.2 ⟨hf, by simp [htimeless]⟩, rfl⟩
    exact h f.1 hkey f.2.1 f.2.2 ⟨name, fields, rfl, hf⟩ value hvalue

/-! ### Documents that were written -/

private theorem readsWhole_time (digits : FractionDigits) (h : decodeTime (rewriteTime digits j) = .ok x) :
    decodeTime (rewriteTime digits x) = .ok x := by
  cases j with
  | str text =>
    cases htext : Instant.parseLenient text with
    | ok t =>
      rw [rewriteTime, htext, decodeTime, Instant.parseLenient_write] at h
      cases h
      rw [rewriteTime_write, Instant.write_cut, decodeTime, Instant.parseLenient_write]
    | error e =>
      rw [rewriteTime, htext, decodeTime, htext] at h
      cases h
  | null | bool b | int n | float bits | arr items | obj content => cases h

/-- Whatever a document was written from, only whole values are read of it. -/
theorem readsWhole_encode : ∀ s : Schema, s.isOrdered = true → ∀ j, s.ReadsWhole (s.encode j) :=
  induct {
    atom := by
      intro s hs j x hx
      cases s with
      | text | flag | int32 | int64 | intOrText | any | constant value =>
        exact readsWhole_timeless _ rfl rfl _ x hx
      | time | microTime =>
        rw [encode, decode] at hx
        rw [IsWhole, encode, decode]
        exact readsWhole_time _ hx
      | base64 => exact readsWhole_timeless _ rfl rfl _ x hx
      | list item | dict value | record name fields => cases hs
    list := by
      intro item ih j x hx
      cases j with
      | arr items =>
        rw [encode] at hx
        refine ReadsWhole.list (fun w hw => ?_) x hx
        obtain ⟨j, -, rfl⟩ := List.mem_map.1 hw
        exact ih j
      | null | bool b | int n | float bits | str t | obj content =>
        rw [encode] at hx
        · cases hx
        all_goals simp
    dict := by
      intro value hvalue j
      refine readsWhole_timeless (.dict value) (by rwa [isOrdered]) ?_ _
      rw [isTimeless]
      exact isTimeless_of_isPlain hvalue
    record := by
      intro name fields hsorted ih j x hx
      cases j with
      | obj content =>
        rw [encode_record] at hx
        obtain ⟨d, rfl, hrecord, hreads⟩ := (decode_record_iff hsorted).1 hx
        refine isWhole_record hsorted hrecord fun f hf => (hreads f hf).reread (ih f hf).1 fun value hvalue => ?_
        rw [get?_encodeFields_of_mem hsorted hf] at hvalue
        obtain ⟨j, -, rfl⟩ := Option.map_eq_some_iff.1 hvalue
        exact (ih f hf).2 j
      | null | bool b | int n | float bits | str t | arr items =>
        rw [encode] at hx
        · cases hx
        all_goals simp
  }

end Schema

end SessionOperator
