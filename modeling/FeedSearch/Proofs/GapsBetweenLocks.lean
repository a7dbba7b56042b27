-- A read of the cache and a call for a breaker each let go of a lock and take it again.
-- What others do in the gap does no harm: the read removes nothing but what had expired
-- when it began, and all callers of one name get the one breaker of that name.
import FeedSearch.Proofs.CacheReads
import FeedSearch.Proofs.BreakerCallers

namespace FeedSearch

/-! ## The law -/

/-- Whatever others do in the gaps. A read of the cache takes nothing away but the entry of its key,
if it had expired when the read began and was there when it looked; if its key is written after it
has looked, it takes nothing away. A name has one breaker, which is there if somebody holds it; all
that hold it hold the same, which has taken the changes of them all. Nothing but those changes
touches a breaker that is there, nothing moves it, and everybody that asks for a breaker gets it. -/
theorem what_comes_into_the_gaps_does_no_harm :
    (∀ (defaultTtl : Time.Span) (maxEntries : Nat) (since : Instant) (before : List Cache.Piece)
        (key : String) (waiting between : List Cache.Piece),
      let asking := (Cache.InUse.start (.empty defaultTtl maxEntries) since).play before
      let n := asking.reads.length
      let seeing := (asking.act (.begin key)).play waiting
      let removing := (seeing.act (.look n)).play between
      let removed := removing.act (.remove n)
      (∀ other e, removing.cache.find? other = some e →
        removed.cache.find? other = some e ∨
          other = key ∧ e.expiresAt ≤ asking.now ∧ asking.cache.find? key = some e ∧
            seeing.cache.find? key = some e) ∧
      ∀ earlier records ttl later, between = earlier ++ .set key records ttl :: later →
        let writing := (seeing.act (.look n)).play earlier
        (writing.cache.set key records ttl writing.now).1 = true →
          removed.cache = removing.cache) ∧
    ∀ (config : BreakerConfig) (steps : List Breakers.Step),
      let w := (Breakers.Shared.start config).play steps
      w.breakers.names.Nodup ∧
      (∀ name, name ∈ w.breakers.names ↔ ∃ p, .holding name p ∈ w.callers) ∧
      (∀ name p q, .holding name p ∈ w.callers → .holding name q ∈ w.callers → p = q) ∧
      (∀ name p, .holding name p ∈ w.callers →
        w.breakers.entries[p]? = some (name, Breakers.changed w.changes name)) ∧
      (∀ (n : Nat) name p f, w.callers[n]? = some (.holding name p) →
        (w.act (.change n f)).breakers = w.breakers.modify name f) ∧
      (∀ s, (∀ n f, s ≠ .change n f) → w.breakers.entries <+: (w.act s).breakers.entries) ∧
      (∀ more, w.breakers.names <+: (w.play more).breakers.names ∧
        ∀ (n : Nat) name p, w.callers[n]? = some (.holding name p) →
          (w.play more).callers[n]? = some (.holding name p)) ∧
      ∀ name waiting between,
        let n := w.callers.length
        let looked := ((w.act (.ask name)).play waiting).act (.look n)
        ∃ p, ((looked.play between).act (.make n)).callers[n]? = some (.holding name p) := by
  refine ⟨fun defaultTtl maxEntries since before key waiting between => ?_,
    fun config steps => ?_⟩
  · intro asking n seeing removing removed
    have hstart : (Cache.InUse.start (.empty defaultTtl maxEntries) since).Onward asking :=
      Cache.InUse.onward_play (Cache.empty_lives defaultTtl maxEntries) before
    have hlives : asking.cache.defaultTtl.isZero = false :=
      hstart.defaultTtl ▸ Cache.empty_lives defaultTtl maxEntries
    refine ⟨fun other e => asking.removed_was_expired hlives waiting between, ?_⟩
    rintro earlier records ttl later rfl
    exact asking.spares_what_is_set_later hlives waiting earlier later
  · intro w
    have hsound : w.Sound := (Breakers.Shared.Sound.start config).play steps
    refine ⟨hsound.nodup, fun name => ⟨hsound.wanted, ?_⟩, fun name p q => hsound.one_place,
      fun name p => hsound.at_place, ?_, fun s => w.entries_prefix_act,
      fun more => ⟨w.names_prefix_play more, fun n name p => Breakers.Shared.holding_play more⟩,
      fun name waiting between => w.caller_gets_breaker name waiting between⟩
    · rintro ⟨p, hp⟩
      exact List.mem_of_getElem? (hsound.held hp)
    · intro n name p f hn
      exact hsound.change_eq_modify hn f

/-- A read sees an entry that has just expired. Before it comes back another read removes the entry
and a new one is written, which stays. Two callers see that a name has no breaker, and the second
comes back to make it when the first has made it and has failed: it gets that breaker. -/
theorem what_comes_back_late_finds_what_is_new :
    let c := Cache.empty (.ofSeconds 60) 10
    let asking := (Cache.InUse.start c 0).play [.set "page" [] (.ofSeconds 1), .wait 1000000000]
    let looked := (asking.act (.begin "page")).act (.look 0)
    let removing := looked.play [.begin "page", .look 1, .remove 1, .set "page" [] (.ofSeconds 1)]
    let steps : List Breakers.Step := [.ask "posts", .ask "posts", .look 0, .look 1, .make 0,
      .change 0 (·.onFailure .standard 5), .make 1, .change 1 (·.onFailure .standard 7)]
    let w := (Breakers.Shared.start .standard).play steps
    (looked.act (.remove 0)).cache.find? "page" = none ∧
      (removing.act (.remove 0)).cache = removing.cache ∧
      ((removing.act (.remove 0)).cache.find? "page").map (·.expiresAt) = some 2000000000 ∧
      w.callers = [.holding "posts" 0, .holding "posts" 0] ∧
      w.breakers.entries[0]? = some ("posts", Breakers.changed w.changes "posts") ∧
      (Breakers.changed w.changes "posts").failures = 2 := by
  intro c asking looked removing steps w
  obtain ⟨hcache, hbreakers⟩ := what_comes_into_the_gaps_does_no_harm
  obtain ⟨_, hspared⟩ := hcache (.ofSeconds 60) 10 0
    [.set "page" [] (.ofSeconds 1), .wait 1000000000] "page" []
    [.begin "page", .look 1, .remove 1, .set "page" [] (.ofSeconds 1)]
  have hsame : (removing.act (.remove 0)).cache = removing.cache :=
    hspared [.begin "page", .look 1, .remove 1] [] (.ofSeconds 1) [] rfl (by decide +kernel)
  have hgone : ((looked.act (.remove 0)).cache.find? "page").isNone = true := by decide +kernel
  have hstays : (removing.cache.find? "page").map (·.expiresAt) = some 2000000000 := by
    decide +kernel
  obtain ⟨_, _, _, hplace, _⟩ := hbreakers .standard steps
  have hcallers : w.callers = [.holding "posts" 0, .holding "posts" 0] := by decide +kernel
  refine ⟨Option.isNone_iff_eq_none.mp hgone, hsame, hsame.symm ▸ hstays, hcallers, ?_, ?_⟩
  · refine hplace "posts" 0 ?_
    show _ ∈ w.callers
    rw [hcallers]
    exact List.mem_cons_self
  · decide +kernel

end FeedSearch
