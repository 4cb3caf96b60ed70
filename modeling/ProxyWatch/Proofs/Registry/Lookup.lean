import ProxyWatch.Registry.StateFile

/-! What is found in a registry after each of its operations. -/
namespace ProxyWatch

theorem find?_insertById {e : Endpoint} {xs : List Endpoint} {id : String} :
    (insertById e xs).find? (·.id == id) =
      if e.id = id then some e else xs.find? (·.id == id) := by
  induction xs with
  | nil => by_cases h : e.id = id <;> simp [insertById, h]
  | cons x xs ih =>
    unfold insertById
    split
    · by_cases h : e.id = id <;> simp [h]
    · split
      · rename_i heq
        by_cases h : e.id = id
        · simp [h]
        · have hx : x.id ≠ id := heq ▸ h
          simp [h, hx]
      · rename_i hne
        by_cases hx : x.id = id
        · have h : e.id ≠ id := fun h => hne (h.trans hx.symm)
          simp [h, hx]
        · simp [hx, ih]

/-- The endpoint that a change is about. -/
def Change.endpoint : Change → String
  | .upsert e => e.id
  | .delete id | .setEnabled id _ | .setPriority id _ | .health id _ => id

namespace Registry

variable {r : Registry} {e : Endpoint} {id id' : String} {f : Endpoint → Endpoint}

theorem id_of_find? (h : r.find? id = some e) : e.id = id := by
  simpa using List.find?_some h

theorem find?_put : (r.put e).find? id = if e.id = id then some e else r.find? id :=
  find?_insertById

@[simp] theorem find?_put_self : (r.put e).find? e.id = some e := by
  rw [find?_put, if_pos rfl]

theorem find?_put_of_ne (h : e.id ≠ id) : (r.put e).find? id = r.find? id := by
  rw [find?_put, if_neg h]

theorem get_of_find? (h : r.find? id = some e) : r.get id = .ok e := by
  simp only [get, h]

theorem get_of_absent (h : r.find? id = none) : r.get id = .error (.notFound id) := by
  simp only [get, h]

theorem modify_of_find? (h : r.find? id = some e) :
    r.modify id f = .ok (r.put { f e with id := e.id }, { f e with id := e.id }) := by
  simp only [modify, h]

theorem modify_of_absent (h : r.find? id = none) : r.modify id f = .error (.notFound id) := by
  simp only [modify, h]

theorem applyHealth_of_find? {u : HealthUpdate} (h : r.find? id = some e) :
    r.applyHealth id u = .ok (r.put (e.update u), e.update u) := modify_of_find? h

theorem id_of_modify {x : Registry × Endpoint} (h : r.modify id f = .ok x) : x.2.id = id := by
  cases hf : r.find? id with
  | none => simp [modify_of_absent hf] at h
  | some e =>
    rw [modify_of_find? hf] at h
    cases h
    exact (id_of_find? hf :)

/-- A change of a record touches no other one. -/
theorem find?_modify_of_ne {x : Registry × Endpoint} (h : r.modify id f = .ok x) (hi : id ≠ id') :
    x.1.find? id' = r.find? id' := by
  cases hf : r.find? id with
  | none => simp [modify_of_absent hf] at h
  | some e =>
    rw [modify_of_find? hf] at h
    cases h
    have he : e.id ≠ id' := fun he => hi ((id_of_find? hf).symm.trans he)
    exact find?_put_of_ne (e := { f e with id := e.id }) he

theorem find?_of_mem (h : e ∈ r.entries) : r.find? e.id = some e := by
  obtain ⟨xs, hr⟩ := r
  simp only [find?] at h ⊢
  induction xs with
  | nil => simp at h
  | cons x xs ih =>
    obtain ⟨hx, hxs⟩ := List.pairwise_cons.mp hr
    rcases List.mem_cons.mp h with rfl | hm
    · simp
    · have hne : x.id ≠ e.id := String.ne_of_lt (hx e hm)
      simp [hne, ih hxs hm]

theorem mem_of_find? (h : r.find? id = some e) : e ∈ r.entries := List.mem_of_find?_eq_some h

/-- A registry is what is found in it. -/
theorem ext_find? {r' : Registry} (h : ∀ id, r.find? id = r'.find? id) : r = r' := by
  have hm : ∀ e, e ∈ r.entries ↔ e ∈ r'.entries := fun e =>
    ⟨fun he => mem_of_find? ((h e.id).symm.trans (find?_of_mem he)),
      fun he => mem_of_find? ((h e.id).trans (find?_of_mem he))⟩
  have hn : ∀ x : Registry, x.entries.Nodup := fun x =>
    List.Pairwise.imp (fun hlt heq => String.ne_of_lt hlt (congrArg Endpoint.id heq)) x.ascending
  have hp : r.entries.Perm r'.entries := (List.perm_ext_iff_of_nodup (hn r) (hn r')).mpr hm
  have he : r.entries = r'.entries :=
    hp.eq_of_pairwise (fun a b _ _ hab hba => (String.lt_asymm hab hba).elim) r.ascending r'.ascending
  cases r
  cases r'
  cases he
  rfl

theorem delete_of_find? (h : r.find? id = some e) :
    ∃ r', r.delete id = .ok (r', e) ∧ r'.find? id = none ∧ ∀ id', id ≠ id' → r'.find? id' = r.find? id' := by
  refine ⟨⟨r.entries.filter (·.id != id), r.ascending.filter _⟩, by simp only [delete, h], ?_, ?_⟩
  · simp [find?]
  · intro id' hne
    simp only [find?, List.find?_filter]
    congr 1
    funext x
    by_cases hx : x.id = id'
    · simp [hx, Ne.symm hne]
    · simp [hx]

theorem delete_of_absent (h : r.find? id = none) : r.delete id = .error (.notFound id) := by
  simp only [delete, h]

theorem upsert_of_find? {old : Endpoint} (h : r.find? e.id = some old) : (r.upsert e).2 =
    { old with url := e.url, name := e.name, priority := e.priority, enabled := e.enabled } := by
  simp only [upsert, h]

theorem upsert_of_absent (h : r.find? e.id = none) : (r.upsert e).2 = e.resetHealth := by
  simp only [upsert, h]

theorem id_upsert : (r.upsert e).2.id = e.id := by
  cases h : r.find? e.id with
  | none =>
    rw [upsert_of_absent h]
    rfl
  | some old =>
    rw [upsert_of_find? h]
    exact (id_of_find? h :)

theorem find?_upsert (r : Registry) (e : Endpoint) (id : String) :
    (r.upsert e).1.find? id = if e.id = id then some (r.upsert e).2 else r.find? id := by
  have hput : (r.upsert e).1 = r.put (r.upsert e).2 := rfl
  rw [hput, find?_put, id_upsert]

/-- An endpoint whose id is known takes the place of the one that has it. -/
theorem length_put_le (h : (r.find? e.id).isSome) : (r.put e).entries.length ≤ r.entries.length := by
  obtain ⟨es, hes⟩ := r
  obtain ⟨y, hy, hid⟩ : ∃ y ∈ es, y.id = e.id := by simpa [find?] using h
  change (insertById e es).length ≤ es.length
  clear h
  induction es with
  | nil => simp at hy
  | cons x es ih =>
    obtain ⟨hx, hes⟩ := List.pairwise_cons.mp hes
    unfold insertById
    split
    · rename_i hlt
      have hle : x.id ≤ y.id := by
        rcases List.mem_cons.mp hy with rfl | hy
        · exact String.le_refl _
        · exact Std.le_of_lt (hx y hy)
      exact absurd hlt (Std.not_lt.mpr (hid ▸ hle))
    · split
      · exact Nat.le_refl _
      · rename_i hne
        have hy : y ∈ es := (List.mem_cons.mp hy).resolve_left fun he => hne (he ▸ hid).symm
        exact Nat.succ_le_succ (ih hes hy)

/-- A change of a record stays in its place. -/
theorem isSome_find?_put (h : (r.find? e.id).isSome) : ((r.put e).find? id).isSome = (r.find? id).isSome := by
  rw [find?_put]
  split
  · rename_i hi
    rw [← hi, h]
    rfl
  · rfl

theorem isSome_find?_modify {x : Registry × Endpoint} (h : r.modify id f = .ok x) :
    (x.1.find? id').isSome = (r.find? id').isSome := by
  cases hf : r.find? id with
  | none => simp [modify_of_absent hf] at h
  | some e =>
    rw [modify_of_find? hf] at h
    cases h
    apply isSome_find?_put
    simp [id_of_find? hf, hf]

/-! What holds of every record -/

/-- Something holds of every record. -/
def Every (P : Endpoint → Prop) (r : Registry) : Prop := ∀ e ∈ r.entries, P e

variable {P : Endpoint → Prop} {r' : Registry}

theorem Every.of_find? (h : r.Every P) (hf : r.find? id = some e) : P e := h e (mem_of_find? hf)

theorem Every.put (h : r.Every P) (he : P e) : (r.put e).Every P := by
  intro x hx
  rcases mem_insertById hx with rfl | hx
  · exact he
  · exact h x hx

theorem Every.modify (h : r.Every P) (hf : ∀ e, P e → P { f e with id := e.id })
    (hm : r.modify id f = .ok (r', e)) : r'.Every P := by
  cases hr : r.find? id with
  | none => simp [modify_of_absent hr] at hm
  | some x =>
    rw [modify_of_find? hr] at hm
    cases hm
    exact h.put (hf x (h.of_find? hr))

theorem Every.delete (h : r.Every P) (hd : r.delete id = .ok (r', e)) : r'.Every P := by
  cases hr : r.find? id with
  | none => simp [delete_of_absent hr] at hd
  | some x =>
    simp only [Registry.delete, hr] at hd
    cases hd
    exact fun y hy => h y (List.mem_filter.mp hy).1

theorem Every.foldl_put {es : List Endpoint} (h : r.Every P) (hes : ∀ e ∈ es, P e) : (es.foldl Registry.put r).Every P := by
  induction es generalizing r with
  | nil => exact h
  | cons e es ih => exact ih (h.put (hes e (by simp))) fun x hx => hes x (by simp [hx])

theorem every_ofList {es : List Endpoint} (h : ∀ e ∈ es, P e) : (ofList es).Every P :=
  Every.foldl_put (by simp [Every, empty]) h

/-- Only a deletion takes an endpoint out of a registry, and only an insertion puts one in. -/
theorem change_cases {c : Change} {x : Registry × Endpoint} (h : r.change c = .ok x) (id : String) :
    (x.1.find? id).isSome = (r.find? id).isSome ∨
    (c = .delete id ∧ (r.find? id).isSome ∧ x.1.find? id = none) ∨
    ∃ e, c = .upsert e ∧ e.id = id ∧ r.find? id = none ∧ x.1.find? id = some e.resetHealth := by
  cases c with
  | upsert e =>
    simp only [change, Except.ok.injEq] at h
    subst h
    cases hf : r.find? e.id with
    | none =>
      by_cases hi : e.id = id
      · subst hi
        refine .inr (.inr ⟨e, rfl, rfl, hf, ?_⟩)
        simp only [upsert, hf]
        exact find?_put_self (e := e.resetHealth)
      · left
        simp only [upsert, hf]
        rw [find?_put_of_ne (e := e.resetHealth) hi]
    | some old =>
      left
      simp only [upsert, hf]
      apply isSome_find?_put
      simp [id_of_find? hf, hf]
  | delete id' =>
    simp only [change] at h
    cases hf : r.find? id' with
    | none => simp [delete_of_absent hf] at h
    | some e =>
      obtain ⟨r', hr, hn, ho⟩ := delete_of_find? hf
      rw [hr] at h
      cases h
      by_cases hi : id' = id
      · subst hi
        exact .inr (.inl ⟨rfl, by simp [hf], hn⟩)
      · exact .inl (by rw [ho id hi])
  | setEnabled | setPriority | health => exact .inl (isSome_find?_modify h)

/-- A change touches the endpoint that it is about and no other. -/
theorem find?_change_of_ne {c : Change} {x : Registry × Endpoint}
    (h : r.change c = .ok x) (hne : c.endpoint ≠ id) : x.1.find? id = r.find? id := by
  cases c with
  | upsert e =>
    cases h
    exact (find?_upsert r e id).trans (if_neg hne)
  | delete id' =>
    cases hf : r.find? id' with
    | none =>
      rw [change, delete_of_absent hf] at h
      cases h
    | some e =>
      obtain ⟨r', hr, -, hother⟩ := delete_of_find? hf
      rw [change, hr] at h
      cases h
      exact hother id hne
  | setEnabled | setPriority | health => exact find?_modify_of_ne h hne

end Registry
end ProxyWatch
