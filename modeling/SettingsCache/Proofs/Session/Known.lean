import SettingsCache.Proofs.Session.Answers
import SettingsCache.Proofs.Session.Coherence

/-!
# What a cache knows by itself

In a sound session a cache answers by itself only after a check that finds the counter where the
values were kept, and then it answers what the service holds.
-/

namespace SettingsCache

open Service (bumps)

namespace Session.Sound

variable {history : List Service} {s : Session}

/-- What a check finds is where the counter stands, and then the tracker came by a fast read or a
listing. -/
theorem of_observed (h : s.Sound history) {user : UserId} {g : Generation}
    (hobserved : (s.cache.beginRead (Provider.view s.service) user).result.observed = some g) :
    s.service.generation s.cache.ns = g ∧ user = s.cache.owner ∧
      s.cache.config.fastPath = true ∧
      (s.cache.beginRead (Provider.view s.service) user).cache.store.generation = some g ∧
      (s.cache.beginRead (Provider.view s.service) user).cache.store.Kept history s.cache.ns
        s.cache.owner := by
  have hchecked := s.cache.beginRead_checked (Provider.view s.service) user h.reporting
  have hkept := h.kept.checked hchecked
  rw [hobserved] at hchecked
  obtain ⟨t, ht, -, hview⟩ := hchecked.found
  rw [h.kept.slot t ht] at hview
  refine ⟨Service.generation_of_view hview, Cache.eq_owner_of_caches hchecked.caching_eq, ?_,
    hchecked.generation_eq, hkept⟩
  apply Decidable.byContradiction
  intro hslow
  have hnone := h.slow (Bool.eq_false_iff.mpr hslow)
  rw [ht] at hnone
  cases hnone

/-- What was true since the counter stood where it stands is true. -/
theorem now (h : s.Sound history) (hbumps : bumps s.cache.ns history < 2 ^ 32)
    {P : Service → Prop} (hP : ∀ t, t.tables.get s.cache.ns = s.service.tables.get s.cache.ns →
      P t → P s.service)
    (hsince : TrueSince history s.cache.ns (s.service.generation s.cache.ns) P) : P s.service :=
  hsince.now h.ticking hbumps h.last rfl hP

theorem known_lookup (h : s.Sound history) (hbumps : bumps s.cache.ns history < 2 ^ 32)
    {name : String} {user : UserId} {answer : Kind.lookup.Answer}
    (hknown : s.cache.known? (Provider.view s.service) (.lookup name user) = some answer) :
    s.cache.config.fastPath = true ∧
      Kind.lookup.said answer = .ok (s.service.value s.cache.ns user name) := by
  rw [Cache.known?_lookup, Option.map_eq_some_iff] at hknown
  obtain ⟨reading, hreading, rfl⟩ := hknown
  obtain ⟨g, ho, hreading⟩ := Option.bind_eq_some_iff.mp hreading
  obtain ⟨value, hv, hreading⟩ := Option.bind_eq_some_iff.mp hreading
  cases hreading
  obtain ⟨rfl, rfl, hfast, hg, hkept⟩ := h.of_observed ho
  refine ⟨hfast, congrArg Except.ok (Eq.symm ?_)⟩
  refine h.now hbumps ?_ (hkept.coherent.values _ name value hg hv)
  exact fun t htables ↦ (Service.value_congr htables _ name).symm.trans

theorem known_list (h : s.Sound history) (hbumps : bumps s.cache.ns history < 2 ^ 32)
    {stem : String} {user : UserId} {answer : Kind.listing.Answer}
    (hknown : s.cache.known? (Provider.view s.service) (.list stem user) = some answer) :
    s.cache.config.fastPath = true ∧ Kind.listing.said answer =
      .ok ((NameMap.withStem (s.service.table s.cache.ns user) stem).select Entry.value) := by
  rw [Cache.known?_list, Option.map_eq_some_iff] at hknown
  obtain ⟨values, hvalues, rfl⟩ := hknown
  unfold Cache.knownListing? at hvalues
  split at hvalues
  · next hboth =>
    obtain ⟨hobserved, hs⟩ := Bool.and_eq_true_iff.mp hboth
    obtain ⟨g, ho⟩ := Option.isSome_iff_exists.mp hobserved
    obtain ⟨rfl, rfl, hfast, hg, hkept⟩ := h.of_observed ho
    cases hvalues
    refine ⟨hfast, congrArg Except.ok (Std.ExtTreeMap.ext_getElem? fun name ↦ ?_)⟩
    rw [Store.listing, NameMap.getElem?_select, NameMap.getElem?_withStem,
      NameMap.getElem?_select, NameMap.getElem?_withStem]
    split
    · next hname =>
      change _ = s.service.value s.cache.ns s.cache.owner name
      cases hv : (s.cache.beginRead (Provider.view s.service)
          s.cache.owner).cache.store.values[name]? with
      | some value =>
        refine Eq.symm (h.now hbumps ?_ (hkept.coherent.values _ name value hg hv))
        exact fun t htables ↦ (Service.value_congr htables _ name).symm.trans
      | none =>
        have hsince := (hkept.coherent.stems _ stem hg hs).imp fun _ h ↦ h name hname hv
        refine Eq.symm (h.now hbumps ?_ hsince)
        exact fun t htables ↦ (Service.value_congr htables _ name).symm.trans
    · rfl
  · cases hvalues

end Session.Sound

end SettingsCache
