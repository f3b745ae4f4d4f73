import IngressGuard.Proofs.Calls

/-!
# Stores, annotations and marks

The laws of the containers the controller writes through: a store keeps one object per key and a
read sees the last write at that key; an annotation map answers the last value set for a key and
forgets a removed key whatever order its entries were in; a Dex server is replaced as a whole.
On ingresses: marking, unmarking and the backup annotation touch only metadata, so the single
path of an ingress is whatever the last swap made it; and a swap on an ingress of the supported
shape changes exactly that path.

The objects of one ingress's proxy and the client-secret Secrets never share a name: a proxy
name ends in `y`, a client-secret name in a hexadecimal digit.
-/

namespace IngressGuard

open IngressGuard.Kube

/-! ## Stores -/

namespace Store
variable {α : Type} (s : Store α) (k k' : ObjectKey) (v : α)

@[simp] theorem get?_nil : Store.get? ([] : Store α) k = none := rfl
@[simp] theorem get?_cons (k₀ : ObjectKey) (v₀ : α) :
    Store.get? ((k₀, v₀) :: s) k = if k₀ = k then some v₀ else Store.get? s k := by
  by_cases h : k₀ = k <;> simp [get?, h]

@[simp] theorem contains_nil : Store.contains ([] : Store α) k = false := rfl
@[simp] theorem contains_cons (k₀ : ObjectKey) (v₀ : α) :
    Store.contains ((k₀, v₀) :: s) k = (k₀ == k || Store.contains s k) := rfl

theorem get?_map_replace :
    Store.get? (s.map fun p => if p.1 == k then (k, v) else p) k' =
      if k' = k then (if s.contains k then some v else none) else s.get? k' := by
  induction s with
  | nil => simp
  | cons p s ih =>
    obtain ⟨k₀, v₀⟩ := p
    rw [List.map_cons]
    by_cases h₀ : k₀ = k
    · subst h₀
      simp only [beq_self_eq_true, if_true, get?_cons, ih, contains_cons, Bool.true_or]
      by_cases h : k₀ = k' <;> simp [h, Ne.symm]
    · have hb : (k₀ == k) = false := by simpa using h₀
      simp only [hb, Bool.false_eq_true, if_false, get?_cons, ih, contains_cons, Bool.false_or]
      by_cases h : k' = k
      · subst h; simp [h₀]
      · simp [h]

theorem get?_append_single :
    Store.get? (s ++ [(k, v)]) k' = (s.get? k').or (if k' = k then some v else none) := by
  induction s with
  | nil => by_cases h : k' = k <;> simp [h, Ne.symm]
  | cons p s ih =>
    obtain ⟨k₀, v₀⟩ := p
    by_cases h₀ : k₀ = k' <;> simp [h₀, ih]

theorem get?_eq_none_of_contains (h : s.contains k = false) : s.get? k = none := by
  induction s with
  | nil => rfl
  | cons p s ih =>
    obtain ⟨k₀, v₀⟩ := p
    simp only [contains_cons, Bool.or_eq_false_iff, beq_eq_false_iff_ne] at h
    simp [h.1, ih h.2]

@[simp] theorem get?_put : (s.put k v).get? k' = if k' = k then some v else s.get? k' := by
  unfold put
  split
  · rw [get?_map_replace]
    simp_all
  · rw [get?_append_single]
    by_cases h : k' = k
    · subst h
      rename_i hc
      simp [get?_eq_none_of_contains s k' (by simpa using hc)]
    · cases s.get? k' <;> simp [h]

@[simp] theorem get?_erase : (s.erase k).get? k' = if k' = k then none else s.get? k' := by
  induction s with
  | nil => simp [erase]
  | cons p s ih =>
    obtain ⟨k₀, v₀⟩ := p
    by_cases h₀ : k₀ = k
    · subst h₀
      have : Store.erase ((k₀, v₀) :: s) k₀ = Store.erase s k₀ := by simp [erase]
      rw [this, ih]
      by_cases h : k' = k₀ <;> simp [h, Ne.symm]
    · have : Store.erase ((k₀, v₀) :: s) k = (k₀, v₀) :: Store.erase s k := by simp [erase, h₀]
      rw [this, get?_cons, ih]
      by_cases h : k' = k <;> simp_all

/-- A store only grows by a put. -/
theorem isSome_get?_put (h : (s.get? k').isSome) : ((s.put k v).get? k').isSome := by
  rw [get?_put]
  split <;> simp_all

theorem get?_erase_of_ne (h : k' ≠ k) : (s.erase k).get? k' = s.get? k' := by
  rw [get?_erase, if_neg h]

theorem contains_eq_isSome : s.contains k = (s.get? k).isSome := by
  induction s with
  | nil => rfl
  | cons p s ih =>
    obtain ⟨k₀, v₀⟩ := p
    by_cases h : k₀ = k <;> simp [h, ih]

end Store

/-! ## Annotation maps -/

namespace Kube.StringMap
variable (m : StringMap) (key key' value : String)

@[simp] theorem get?_nil : StringMap.get? [] key = none := rfl
@[simp] theorem get?_cons (k v : String) (m : StringMap) :
    StringMap.get? ((k, v) :: m) key = if k = key then some v else StringMap.get? m key := by
  by_cases h : k = key <;> simp [get?, h]

theorem insert_cons (k v : String) (m : StringMap) :
    StringMap.insert ((k, v) :: m) key value =
      if key < k then (key, value) :: (k, v) :: m
      else if key = k then (key, value) :: m
      else (k, v) :: StringMap.insert m key value := rfl

@[simp] theorem get?_insert :
    (StringMap.insert m key value).get? key' = if key' = key then some value else m.get? key' := by
  induction m with
  | nil => by_cases h : key' = key <;> simp [insert, h, Ne.symm]
  | cons p m ih =>
    obtain ⟨k, v⟩ := p
    rw [insert_cons]
    split
    · by_cases h : key' = key <;> simp [h, Ne.symm]
    · split
      · rename_i hk
        subst hk
        by_cases h : key' = key <;> simp [h, Ne.symm]
      · rename_i hk
        rw [get?_cons, ih, get?_cons]
        by_cases h : key' = key
        · subst h; simp [Ne.symm hk]
        · simp [h]

@[simp] theorem get?_erase :
    (StringMap.erase m key).get? key' = if key' = key then none else m.get? key' := by
  induction m with
  | nil => simp [erase]
  | cons p m ih =>
    obtain ⟨k, v⟩ := p
    by_cases hk : k = key
    · subst hk
      have : StringMap.erase ((k, v) :: m) k = StringMap.erase m k := by simp [erase]
      rw [this, ih]
      by_cases h : key' = k <;> simp [h, Ne.symm]
    · have : StringMap.erase ((k, v) :: m) key = (k, v) :: StringMap.erase m key := by
        simp [erase, hk]
      rw [this, get?_cons, ih]
      by_cases h : key' = key <;> simp_all

/-- Removing a key forgets a value set for it just before. -/
theorem erase_insert_self : (StringMap.insert m key value).erase key = m.erase key := by
  induction m with
  | nil => simp [insert, erase]
  | cons p m ih =>
    obtain ⟨k, v⟩ := p
    rw [insert_cons]
    split
    · simp [erase]
    · split
      · rename_i hk
        subst hk
        simp [erase]
      · rename_i hk
        have hk' : k ≠ key := Ne.symm hk
        simp only [erase, List.filter_cons] at ih ⊢
        simp [hk', ih]

theorem erase_comm : (StringMap.erase m key).erase key' = (StringMap.erase m key').erase key := by
  simp only [erase, List.filter_filter, Bool.and_comm]

theorem erase_of_get?_eq_none (h : m.get? key = none) : StringMap.erase m key = m := by
  induction m with
  | nil => rfl
  | cons p m ih =>
    obtain ⟨k, v⟩ := p
    have hk : k ≠ key := fun e => by simp [e] at h
    have hm : StringMap.get? m key = none := by simpa [hk] using h
    have := ih hm
    simp only [erase, List.filter_cons] at this ⊢
    simp [hk, this]

/-- Two keys set where there were none, then removed, leave the map as it was. -/
theorem erase_erase_insert_insert {k₁ k₂ v₁ v₂ : String} (h₁ : m.get? k₁ = none)
    (h₂ : m.get? k₂ = none) :
    (((StringMap.insert m k₁ v₁).insert k₂ v₂).erase k₂).erase k₁ = m := by
  rw [erase_insert_self, erase_comm, erase_insert_self, erase_of_get?_eq_none _ _ h₁,
    erase_of_get?_eq_none _ _ h₂]

end Kube.StringMap

/-! ## Metadata -/

namespace Kube.ObjectMeta

variable (m : ObjectMeta) (key key' value f : String)

/-- An absent annotation map reads as an empty one. -/
theorem get?_annotations_getD : (m.annotations.getD []).get? key = m.annotationValue? key := by
  cases h : m.annotations <;> simp [annotationValue?, h]

@[simp] theorem annotationValue?_annotate :
    (m.annotate key value).annotationValue? key' =
      if key' = key then some value else m.annotationValue? key' := by
  cases h : m.annotations <;> simp [annotate, annotationValue?, h]

@[simp] theorem annotationValue?_unannotate :
    (m.unannotate key).annotationValue? key' =
      if key' = key then none else m.annotationValue? key' := by
  cases h : m.annotations with
  | none => by_cases hk : key' = key <;> simp [unannotate, annotationValue?, h, hk, StringMap.erase]
  | some a => simp [unannotate, annotationValue?, h]

@[simp] theorem annotationValue?_addFinalizer :
    (m.addFinalizer f).annotationValue? key = m.annotationValue? key := rfl
@[simp] theorem annotationValue?_removeFinalizer :
    (m.removeFinalizer f).annotationValue? key = m.annotationValue? key := rfl
@[simp] theorem hasFinalizer_annotate : (m.annotate key value).hasFinalizer f = m.hasFinalizer f :=
  rfl
@[simp] theorem hasFinalizer_unannotate : (m.unannotate key).hasFinalizer f = m.hasFinalizer f := rfl

@[simp] theorem key_annotate : (m.annotate key value).key = m.key := rfl
@[simp] theorem key_unannotate : (m.unannotate key).key = m.key := rfl
@[simp] theorem key_addFinalizer : (m.addFinalizer f).key = m.key := rfl
@[simp] theorem key_removeFinalizer : (m.removeFinalizer f).key = m.key := rfl

@[simp] theorem hasFinalizer_addFinalizer :
    (m.addFinalizer f).hasFinalizer key = true ↔ key = f ∨ m.hasFinalizer key = true := by
  simp [addFinalizer, hasFinalizer, or_comm]

@[simp] theorem hasFinalizer_removeFinalizer :
    (m.removeFinalizer f).hasFinalizer key = true ↔ key ≠ f ∧ m.hasFinalizer key = true := by
  simp [removeFinalizer, hasFinalizer, and_comm]

end Kube.ObjectMeta

/-! ## Ingresses -/

namespace Kube.Ingress

theorem rule_eq_ok {ing : Ingress} {r : IngressRule} : ing.rule = .ok r ↔ ing.rules = [r] := by
  unfold rule
  split <;> simp_all

theorem path_eq_ok {ing : Ingress} {p : HttpPath} :
    ing.path = .ok p ↔ ∃ r, ing.rules = [r] ∧ (r.http.map (·.paths)).getD [] = [p] := by
  unfold path
  cases h : ing.rule with
  | error e =>
    simp only [bind, Except.bind, reduceCtorEq, false_iff, not_exists, not_and]
    intro r hr
    rw [← rule_eq_ok, h] at hr
    cases hr
  | ok r =>
    simp only [bind, Except.bind]
    rw [rule_eq_ok] at h
    split <;> simp_all

theorem serviceBackend_eq_ok {ing : Ingress} {s : ServiceBackend} :
    ing.serviceBackend = .ok s ↔ ∃ p, ing.path = .ok p ∧ p.backend.service = some s := by
  unfold serviceBackend
  cases h : ing.path with
  | error e => simp [bind, Except.bind]
  | ok p =>
    simp only [bind, Except.bind]
    split <;> simp_all


/-- The ingress with every path pointed at a service: what a swap writes. -/
def withBackend (ing : Ingress) (service : ServiceBackend) : Ingress :=
  { ing with spec := ing.spec.map fun s => { s with rules := s.rules.map (·.map fun r =>
      { r with http := r.http.map fun h => { h with paths := h.paths.map fun p =>
          { p with backend := { p.backend with service := service } } } }) } }

theorem validate_eq_ok {ing : Ingress} : ing.validate = .ok () ↔ ∃ s, ing.serviceBackend = .ok s := by
  unfold validate
  cases ing.serviceBackend <;> simp [Except.map]

/-- An ingress of the supported shape has a host (empty when its rule names none). -/
theorem host_eq_ok_of_serviceBackend {ing : Ingress} {s : ServiceBackend}
    (h : ing.serviceBackend = .ok s) : ∃ host, ing.host = .ok host := by
  obtain ⟨p, hp, -⟩ := serviceBackend_eq_ok.1 h
  obtain ⟨r, hr, -⟩ := path_eq_ok.1 hp
  exact ⟨r.host.getD "", by rw [host, rule_eq_ok.2 hr]; rfl⟩

/-- An ingress of the supported shape, spelled out: its one rule holds one HTTP path, which leads
to the service. -/
theorem spec_of_serviceBackend {ing : Ingress} {s : ServiceBackend}
    (h : ing.serviceBackend = .ok s) :
    ∃ spec r http p, ing.spec = some spec ∧ spec.rules = some [r] ∧ r.http = some http ∧
      http.paths = [p] ∧ p.backend.service = some s := by
  obtain ⟨p, hp, hps⟩ := serviceBackend_eq_ok.1 h
  obtain ⟨r, hr, hpaths⟩ := path_eq_ok.1 hp
  unfold rules at hr
  cases hspec : ing.spec with
  | none => simp [hspec] at hr
  | some spec =>
    cases hrs : spec.rules with
    | none => simp [hspec, hrs] at hr
    | some rs =>
      simp only [hspec, hrs, Option.bind_some, Option.getD_some] at hr
      cases hh : r.http with
      | none => simp [hh] at hpaths
      | some http =>
        simp only [hh, Option.map_some, Option.getD_some] at hpaths
        exact ⟨spec, r, http, p, rfl, by rw [hrs, hr], hh, hpaths, hps⟩

/-- On an ingress of the supported shape the first path is the single one. -/
theorem pointFirstPath?_eq {ing : Ingress} {s : ServiceBackend} (h : ing.serviceBackend = .ok s)
    (t : ServiceBackend) : ing.pointFirstPath? t = some (ing.withBackend t) := by
  obtain ⟨spec, r, http, p, hspec, hrules, hhttp, hpaths, -⟩ := spec_of_serviceBackend h
  simp [pointFirstPath?, withBackend, hspec, hrules, hhttp, hpaths]

theorem setServiceBackend_eq {ing : Ingress} {s : ServiceBackend} (h : ing.serviceBackend = .ok s)
    (t : ServiceBackend) : ing.setServiceBackend t = .ok (ing.withBackend t) := by
  have hv : ing.validate = .ok () := validate_eq_ok.2 ⟨s, h⟩
  unfold setServiceBackend
  rw [hv]
  simp only [pointFirstPath?_eq h t]

/-- A swap that goes through writes what `withBackend` gives. -/
theorem eq_withBackend_of_setServiceBackend {ing ing' : Ingress} {t : ServiceBackend}
    (h : ing.setServiceBackend t = .ok ing') : ing' = ing.withBackend t := by
  unfold setServiceBackend at h
  split at h
  · cases h
  · rename_i hv
    obtain ⟨s, hs⟩ := validate_eq_ok.1 hv
    simp only [pointFirstPath?_eq hs t, Except.ok.injEq] at h
    exact h.symm

@[simp] theorem withBackend_metadata (ing : Ingress) (t : ServiceBackend) :
    (ing.withBackend t).metadata = ing.metadata := rfl

theorem withBackend_withBackend (ing : Ingress) (t t' : ServiceBackend) :
    (ing.withBackend t).withBackend t' = ing.withBackend t' := by
  simp [withBackend, Option.map_map, List.map_map, Function.comp_def]

theorem serviceBackend_withBackend {ing : Ingress} {s : ServiceBackend}
    (h : ing.serviceBackend = .ok s) (t : ServiceBackend) :
    (ing.withBackend t).serviceBackend = .ok t := by
  obtain ⟨p, hp, -⟩ := serviceBackend_eq_ok.1 h
  obtain ⟨r, hr, hpaths⟩ := path_eq_ok.1 hp
  rw [serviceBackend_eq_ok]
  refine ⟨{ p with backend := { p.backend with service := t } }, ?_, rfl⟩
  rw [path_eq_ok]
  refine ⟨{ r with http := r.http.map fun h => { h with paths := h.paths.map fun p =>
          { p with backend := { p.backend with service := t } } } }, ?_, ?_⟩
  · unfold rules at hr ⊢
    cases hs : ing.spec with
    | none => simp [hs] at hr
    | some sp =>
      cases hrs : sp.rules with
      | none => simp [hs, hrs] at hr
      | some rs => simp_all [withBackend]
  · cases hh : r.http with
    | none => simp [hh] at hpaths
    | some hr' => simp_all

theorem withBackend_self {ing : Ingress} {s : ServiceBackend} (h : ing.serviceBackend = .ok s) :
    ing.withBackend s = ing := by
  obtain ⟨p, hp, hps⟩ := serviceBackend_eq_ok.1 h
  obtain ⟨r, hr, hpaths⟩ := path_eq_ok.1 hp
  obtain ⟨metadata, spec, status⟩ := ing
  cases spec with
  | none => simp [rules] at hr
  | some sp =>
    obtain ⟨db, cls, rules, tls⟩ := sp
    cases rules with
    | none => simp [Ingress.rules] at hr
    | some rs =>
      simp only [Ingress.rules, Option.bind_some, Option.getD_some] at hr
      subst hr
      obtain ⟨host, http⟩ := r
      cases http with
      | none => simp at hpaths
      | some hr' =>
        obtain ⟨paths⟩ := hr'
        simp only [Option.map_some, Option.getD_some] at hpaths
        subst hpaths
        obtain ⟨⟨res, svc⟩, path, pathType⟩ := p
        simp only at hps
        subst hps
        rfl


@[simp] theorem serviceBackend_mark (ing : Ingress) : ing.mark.serviceBackend = ing.serviceBackend := rfl
@[simp] theorem serviceBackend_unmark (ing : Ingress) :
    ing.unmark.serviceBackend = ing.serviceBackend := rfl
@[simp] theorem spec_mark (ing : Ingress) : ing.mark.spec = ing.spec := rfl
@[simp] theorem spec_unmark (ing : Ingress) : ing.unmark.spec = ing.spec := rfl

@[simp] theorem key_mark (ing : Ingress) : ing.mark.metadata.key = ing.metadata.key := by
  unfold mark
  split <;> rfl

@[simp] theorem key_unmark (ing : Ingress) : ing.unmark.metadata.key = ing.metadata.key := rfl

@[simp] theorem annotationValue?_mark (ing : Ingress) (key : String) :
    ing.mark.annotationValue? key =
      if key = handledAnnotationKey then some handledValue else ing.annotationValue? key := by
  unfold mark Ingress.annotationValue?
  split <;> simp

@[simp] theorem annotationValue?_unmark (ing : Ingress) (key : String) :
    ing.unmark.annotationValue? key =
      if key = handledAnnotationKey then none else ing.annotationValue? key := by
  simp [unmark, Ingress.annotationValue?]

theorem hasSecurityFinalizer_mark (ing : Ingress) : ing.mark.hasSecurityFinalizer = true := by
  unfold mark hasSecurityFinalizer
  split
  · simpa using ‹_›
  · simp

theorem hasSecurityFinalizer_unmark (ing : Ingress) : ing.unmark.hasSecurityFinalizer = false := by
  simp [unmark, hasSecurityFinalizer, ObjectMeta.hasFinalizer, ObjectMeta.removeFinalizer,
    ObjectMeta.unannotate]

/-- The ingress with an annotation set, as the backup is written. -/
def annotated (ing : Ingress) (key value : String) : Ingress :=
  { ing with metadata := ing.metadata.annotate key value }

/-- The ingress without an annotation, as the backup is removed. -/
def unannotated (ing : Ingress) (key : String) : Ingress :=
  { ing with metadata := ing.metadata.unannotate key }

@[simp] theorem key_annotated (ing : Ingress) (key value : String) :
    (ing.annotated key value).metadata.key = ing.metadata.key := rfl
@[simp] theorem key_unannotated (ing : Ingress) (key : String) :
    (ing.unannotated key).metadata.key = ing.metadata.key := rfl
@[simp] theorem serviceBackend_annotated (ing : Ingress) (key value : String) :
    (ing.annotated key value).serviceBackend = ing.serviceBackend := rfl
@[simp] theorem serviceBackend_unannotated (ing : Ingress) (key : String) :
    (ing.unannotated key).serviceBackend = ing.serviceBackend := rfl
@[simp] theorem hasSecurityFinalizer_annotated (ing : Ingress) (key value : String) :
    (ing.annotated key value).hasSecurityFinalizer = ing.hasSecurityFinalizer := rfl
@[simp] theorem hasSecurityFinalizer_unannotated (ing : Ingress) (key : String) :
    (ing.unannotated key).hasSecurityFinalizer = ing.hasSecurityFinalizer := rfl

@[simp] theorem annotationValue?_annotated (ing : Ingress) (key value key' : String) :
    (ing.annotated key value).annotationValue? key' =
      if key' = key then some value else ing.annotationValue? key' := by
  simp [annotated, Ingress.annotationValue?]

@[simp] theorem annotationValue?_unannotated (ing : Ingress) (key key' : String) :
    (ing.unannotated key).annotationValue? key' =
      if key' = key then none else ing.annotationValue? key' := by
  simp [unannotated, Ingress.annotationValue?]

end Kube.Ingress

/-! ## Names -/

theorem hexDigit_ne_y : ∀ v, v < 16 → Bytes.hexDigit v ≠ 'y' := by decide

theorem mem_shortHex {bs : List UInt8} {c : Char} (h : c ∈ (Sha256.shortHex bs).toList) :
    c ≠ 'y' := by
  simp only [Sha256.shortHex, String.toList_ofList, Bytes.hex] at h
  have h' := List.mem_of_mem_take h
  simp only [List.mem_flatMap, List.mem_cons, List.not_mem_nil, or_false] at h'
  obtain ⟨b, -, hb⟩ := h'
  have h16 : b.toNat / 16 < 16 := by have := b.toNat_lt; omega
  rcases hb with rfl | rfl
  · exact hexDigit_ne_y _ h16
  · exact hexDigit_ne_y _ (Nat.mod_lt _ (by decide))

theorem shortHex_ne_nil (bs : List UInt8) : (Sha256.shortHex bs).toList ≠ [] := by
  simp [Sha256.shortHex, Bytes.hex, Sha256.digest, Sha256.bytesOfWord]

theorem proxyName_inj {a b : String} : proxyName a = proxyName b ↔ a = b :=
  String.append_left_inj _

theorem clientSecretName_ne_proxyName (id n : String) : clientSecretName id ≠ proxyName n := by
  intro h
  have hl := congrArg (fun s => s.toList.getLast?) h
  simp only [clientSecretName, proxyName, String.toList_append, List.getLast?_append] at hl
  have hne := shortHex_ne_nil (Bytes.utf8 id)
  have hmem := @mem_shortHex (Bytes.utf8 id)
  generalize Sha256.shortHex (Bytes.utf8 id) = hx at hl hne hmem
  obtain ⟨c, hc⟩ := Option.isSome_iff_exists.1 (List.getLast?_isSome.2 hne)
  have hy : ("-bilrost-proxy" : String).toList.getLast? = some 'y' := by decide
  rw [hc, hy] at hl
  simp only [Option.some_or, Option.some.injEq] at hl
  exact hmem (List.mem_of_getLast? hc) hl

/-! ## Writes -/

@[simp] theorem World.get?_withIngress (w : World) (ing : Ingress) (k : ObjectKey) :
    (w.withIngress ing).cluster.ingresses.get? k =
      if k = ing.metadata.key then some ing else w.cluster.ingresses.get? k := by
  simp [World.withIngress]

/-! ## Dex servers -/

namespace World

theorem lookup_cons_eq_ite {β : Type} (l : List (String × β)) (a₀ b : String) (s₀ : β) :
    ((a₀, s₀) :: l).lookup b = if b = a₀ then some s₀ else l.lookup b := by
  by_cases h : b = a₀
  · subst h; simp
  · have hb : (b == a₀) = false := by simpa using h
    simp [List.lookup_cons, hb, h]

theorem lookup_map_replace (l : List (String × DexServer)) (a b : String) (s : DexServer) :
    (l.map fun p => if p.1 == a then (a, s) else p).lookup b =
      if b = a then (if l.any (·.1 == a) then some s else none) else l.lookup b := by
  induction l with
  | nil => simp
  | cons p l ih =>
    obtain ⟨a₀, s₀⟩ := p
    rw [List.map_cons]
    by_cases h₀ : a₀ = a
    · subst h₀
      simp only [beq_self_eq_true, if_true, lookup_cons_eq_ite, ih, List.any_cons, Bool.true_or]
      by_cases h : b = a₀ <;> simp [h]
    · have hb : (a₀ == a) = false := by simpa using h₀
      simp only [hb, Bool.false_eq_true, if_false, lookup_cons_eq_ite, ih, List.any_cons,
        Bool.false_or]
      by_cases h : b = a
      · subst h; simp [Ne.symm h₀]
      · simp [h]

@[simp] theorem dexAt_setDex (w : World) (a b : String) (s : DexServer) :
    (w.setDex a s).dexAt b = if b = a then s else w.dexAt b := by
  unfold setDex dexAt
  split
  · rename_i hany
    rw [lookup_map_replace]
    by_cases h : b = a <;> simp [h, hany]
  · rename_i hno
    rw [List.lookup_append]
    by_cases h : b = a
    · subst h
      have : w.dex.lookup b = none := by
        simp only [List.lookup_eq_none_iff]
        rintro ⟨a₀, s₀⟩ hp
        have hne : a₀ ≠ b := fun e => by subst e; simp at hno; exact hno s₀ hp
        have : (b == a₀) = false := by simpa using Ne.symm hne
        simp [bne, this]
      simp [this]
    · cases w.dex.lookup b <;> simp [h, lookup_cons_eq_ite]

/-- Replacing a Dex server changes the servers only. -/
theorem setDex_eq (w : World) (a : String) (s : DexServer) :
    w.setDex a s = { w with dex := (w.setDex a s).dex } := by
  unfold setDex; split <;> rfl

@[simp] theorem home_setDex (w : World) (a : String) (s : DexServer) : (w.setDex a s).home = w.home := by
  unfold setDex; split <;> rfl
@[simp] theorem cluster_setDex (w : World) (a : String) (s : DexServer) : (w.setDex a s).cluster = w.cluster := by
  unfold setDex; split <;> rfl
@[simp] theorem backends_setDex (w : World) (a : String) (s : DexServer) : (w.setDex a s).backends = w.backends := by
  unfold setDex; split <;> rfl

@[simp] theorem cluster_withConnect (w : World) (a : String) : (w.withConnect a).cluster = w.cluster :=
  cluster_setDex w a _
@[simp] theorem cluster_withConnected (w : World) (a : String) :
    (w.withConnected a).cluster = w.cluster := rfl
@[simp] theorem cluster_withClient (w : World) (a : String) (c : Dex.Client) :
    (w.withClient a c).cluster = w.cluster :=
  cluster_setDex w a _
@[simp] theorem cluster_withoutClient (w : World) (a id : String) :
    (w.withoutClient a id).cluster = w.cluster :=
  cluster_setDex w a _

end World

end IngressGuard
