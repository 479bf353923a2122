import MachineTest.Verify.Provenance

/-! # Counts and taps

The counts of the model are integers, those of the program have 64 bits. A count moves by one at a
tap and otherwise only to zero, so no run of fewer than `2 ^ 63` taps takes one out of its range. -/

namespace MachineTest

theorem abs_sign (isAdd : Bool) : |sign isAdd| = 1 := by
  cases isAdd <;> rfl

/-- Nothing that the pages count is above `n` in size. -/
structure Memory.CountedBy {D : Type} (n : ℕ) (s : Memory D) : Prop where
  counts : ∀ d, |s.dishOrdeCount d| ≤ n
  cartCount : |s.cartCount| ≤ n
  entries : s.cartData.map.entries.length ≤ n

namespace Memory.CountedBy

variable {D : Type} {n : ℕ} {s s' : Memory D}

/-- What does not count leaves things as they are or sets them to zero. -/
theorem of_cases (h : s.CountedBy n)
    (hcounts : ∀ d, s'.dishOrdeCount d = s.dishOrdeCount d ∨ s'.dishOrdeCount d = 0)
    (hcartCount : s'.cartCount = s.cartCount ∨ s'.cartCount = 0)
    (hentries : s'.cartData.map.entries.length ≤ s.cartData.map.entries.length) :
    s'.CountedBy n where
  counts d := by
    rcases hcounts d with hsame | hzero
    · rw [hsame]
      exact h.counts d
    · rw [hzero, abs_zero]
      exact Int.natCast_nonneg n
  cartCount := by
    rcases hcartCount with hsame | hzero
    · rw [hsame]
      exact h.cartCount
    · rw [hzero, abs_zero]
      exact Int.natCast_nonneg n
  entries := hentries.trans h.entries

/-- A tap counts one piece, and adds at most one entry to the cart. -/
theorem tap [DecidableEq D] (h : s.CountedBy n) {d : DishRef D} {isAdd : Bool}
    (hcounts : s'.dishOrdeCount = s.dishOrdeCount.apply (.add d (sign isAdd)))
    (hcartCount : s'.cartCount = s.cartCount + sign isAdd)
    (hentries : s'.cartData.map.entries.length ≤ s.cartData.map.entries.length + 1) :
    s'.CountedBy (n + 1) where
  counts e := by
    have hle := s.dishOrdeCount.abs_apply_add_le d e (sign isAdd)
    rw [hcounts, Nat.cast_succ]
    rw [abs_sign] at hle
    exact hle.trans (Int.add_le_add_right (h.counts e) 1)
  cartCount := by
    have hle := abs_add_le s.cartCount (sign isAdd)
    rw [hcartCount, Nat.cast_succ]
    rw [abs_sign] at hle
    exact hle.trans (Int.add_le_add_right h.cartCount 1)
  entries := hentries.trans (Nat.succ_le_succ h.entries)

end Memory.CountedBy

namespace Mocky

section
variable {D : Type}

/-- Plus or minus, on either page. -/
def Event.isTap : Event D → Bool
  | .dish _ _ _ | .row _ _ => true
  | _ => false

/-- How often plus or minus was tapped. -/
def taps (events : List (Event D)) : ℕ := events.countP Event.isTap

end

section
variable {D : Type} [DecidableEq D] [DartDouble D] [Zero D] [Add D] [Sub D] [Mul D] [IntCast D]
variable {s s' : Mocky D} {e : Event D} {n : ℕ}

theorem Step.countedBy (hstep : s.Step e s') (h : s.memory.CountedBy n) :
    s'.memory.CountedBy (n + [e].countP Event.isTap) := by
  cases hstep with
  | session | verificationCompleted | placeOrder | logout | card | mediaQuery => exact h
  | answersNext | dispose => exact h
  | created =>
    dsimp only
    rw [createHomePage_memory]
    exact h.of_cases (fun _ => .inl rfl) (.inr rfl) le_rfl
  | opened =>
    refine h.of_cases (fun _ => .inl rfl) (.inl rfl) ?_
    exact List.length_filter_le _ _
  | ordered =>
    refine h.of_cases (fun d => ?_) (.inr rfl) (Nat.zero_le _)
    rw [leave_memory, resetCount_dishOrdeCount]
    split
    · exact .inr rfl
    · exact .inl rfl
  | back | cleared =>
    dsimp only
    rw [leave_memory]
    exact h
  | @dish page pages rest isAdd i j d =>
    refine h.tap (d := d) rfl rfl ?_
    rw [Memory.tapped]
    dsimp only
    split
    · exact (List.length_filter_le _ _).trans (Nat.le_succ _)
    · exact LinkedMap.length_insert_le _ _ _
  | row => exact h.tap rfl rfl (Nat.le_succ _)
  | @respond response hout =>
    rw [respond_memory]
    rcases HomePageController.fetchAPIDataResume_cases response s.memory with
      ⟨_, _, _, _, hs⟩ | ⟨_, _, hs⟩
    · rw [hs]
      refine h.of_cases (fun d => ?_) (.inl rfl) le_rfl
      by_cases hnew : d.fetch = s.memory.fetches
      · exact .inr (if_pos hnew)
      · exact .inl (if_neg hnew)
    · rw [hs]
      exact h.of_cases (fun _ => .inl rfl) (.inl rfl) le_rfl

/-- **Counts and taps.** After any run no count of a dish, not the count of the cart, and not the
number of rows is above the number of taps on plus and minus, in size. -/
theorem counts_le_taps {storage : FlutterSecureStorage} {currentUser : Option User}
    {events : List (Event D)}
    (hrun : (machine D).run (runApp storage currentUser) events = some s) :
    s.memory.CountedBy (taps events) := by
  refine Machine.run_history (I := fun past s => s.memory.CountedBy (taps past))
    (fun past s e s' h hstep => ?_) ?_ hrun
  · rw [taps, List.countP_append]
    exact (step_sound hstep).countedBy h
  · exact runApp_cases (P := fun s => s.memory.CountedBy 0)
      (fun _ _ => ⟨fun _ => le_rfl, le_rfl, le_rfl⟩) fun _ _ => ⟨fun _ => le_rfl, le_rfl, le_rfl⟩

end

theorem counts_le_taps_oneDish : ∃ s, (machine ℚ).run
      (runApp { userToken := some ⟨⟨"alice", .google⟩, 0⟩ } (some ⟨"alice", .google⟩))
      [.respond oneDish, .dish true 0 0, .app .badgeOntap, .row false (some "1"),
        .row false (some "1")] = some s ∧ s.memory.cartCount = -1 ∧ s.memory.CountedBy 3 := by
  obtain ⟨s, hrun, hcount⟩ : ∃ s, (machine ℚ).run homeOfOneDish
      [.dish true 0 0, .app .badgeOntap, .row false (some "1"), .row false (some "1")] = some s ∧
      s.memory.cartCount = -1 := ⟨_, rfl, rfl⟩
  rw [← run_homeOfOneDish] at hrun
  exact ⟨s, hrun, hcount, counts_le_taps hrun⟩

end Mocky
end MachineTest
