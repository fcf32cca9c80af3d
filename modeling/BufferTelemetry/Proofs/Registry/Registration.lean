import BufferTelemetry.Registry.Basic

/-!
# Registries grow at the end

A registration that succeeds puts the plugin behind those that are there, and one that
fails changes nothing. So whatever is registered with a registry, the plugins it had
come first and in their order (`registerAll_plugins`), and so do their offers
(`offers_of_plugins`).
-/

namespace BufferTelemetry.Registry

variable {ω : Type}

/-- The registry after one call: a plugin that is refused leaves it as it is. -/
def registered (r : Registry ω) (p : Plugin ω) : Registry ω :=
  match r.register p with
  | .ok (_, r') => r'
  | .error _ => r

/-- The registry after a sequence of calls. -/
def registerAll (ps : List (Plugin ω)) (r : Registry ω) : Registry ω := ps.foldl registered r

theorem register_plugins {r r' : Registry ω} {p : Plugin ω} {slot : Nat}
    (h : r.register p = .ok (slot, r')) : r'.plugins = r.plugins ++ [p] := by
  unfold register at h
  cases hcheck : check p with
  | error e =>
    rw [hcheck] at h
    cases h
  | ok checked =>
    rw [hcheck] at h
    simp only [bind, Except.bind] at h
    split at h
    · cases h
      rfl
    · cases h

theorem registered_plugins (r : Registry ω) (p : Plugin ω) :
    ∃ later, (r.registered p).plugins = r.plugins ++ later := by
  unfold registered
  split
  · rename_i r' h
    exact ⟨[p], register_plugins h⟩
  · exact ⟨[], (List.append_nil _).symm⟩

/-- **Growth.** Registration never moves, changes or removes a plugin. -/
theorem registerAll_plugins (ps : List (Plugin ω)) (r : Registry ω) :
    ∃ later, (registerAll ps r).plugins = r.plugins ++ later := by
  induction ps generalizing r with
  | nil => exact ⟨[], (List.append_nil _).symm⟩
  | cons p rest ih =>
    obtain ⟨now, hnow⟩ := registered_plugins r p
    obtain ⟨later, hlater⟩ := ih (r.registered p)
    refine ⟨now ++ later, ?_⟩
    rw [← List.append_assoc, ← hnow]
    exact hlater

theorem offers_of_plugins {r r' : Registry ω} {later : List (Plugin ω)}
    (h : r'.plugins = r.plugins ++ later) : r'.offers = r.offers ++ later.flatMap (·.offers) := by
  rw [offers, offers, h, List.flatMap_append]

end BufferTelemetry.Registry
