import LinkReport.Text.Bytes

/-!
# Character boundaries

A byte position is a boundary of a text if no character lies across it. A text can be cut
at its boundaries and nowhere else, and the parts of a cut put together give the text.
-/

namespace LinkReport.Text

/-- Byte position `n` lies between two characters of the text, or at one of its ends. -/
def IsBoundary (cs : List Char) (n : Nat) : Prop :=
  ∃ xs ys, cs = xs ++ ys ∧ byteLength xs = n

variable {cs xs ys part : List Char} {n start stop : Nat}

theorem isBoundary_zero (cs : List Char) : IsBoundary cs 0 :=
  ⟨[], cs, rfl, rfl⟩

theorem isBoundary_of_prefix (h : xs <+: cs) : IsBoundary cs (byteLength xs) := by
  obtain ⟨ys, hcs⟩ := h
  exact ⟨xs, ys, hcs.symm, rfl⟩

/-- Between ASCII characters every position is a boundary. -/
theorem isBoundary_of_ascii (h : ∀ c ∈ cs, c.utf8Size = 1) (hn : n ≤ byteLength cs) :
    IsBoundary cs n := by
  induction cs generalizing n with
  | nil =>
    rw [byteLength_nil, Nat.le_zero] at hn
    rw [hn]
    exact isBoundary_zero []
  | cons c cs ih =>
    have hc : c.utf8Size = 1 := h c List.mem_cons_self
    rw [byteLength_cons, hc] at hn
    cases n with
    | zero => exact isBoundary_zero _
    | succ n =>
      obtain ⟨xs, ys, hcs, hlen⟩ := ih (fun d hd => h d (List.mem_cons_of_mem c hd))
        (show n ≤ byteLength cs by omega)
      refine ⟨c :: xs, ys, by rw [hcs, List.cons_append], ?_⟩
      rw [byteLength_cons, hc, hlen, Nat.add_comm]

theorem byteLength_eq_zero_iff : byteLength cs = 0 ↔ cs = [] := by
  cases cs with
  | nil => simp
  | cons c cs =>
    have := c.utf8Size_pos
    simp only [byteLength_cons, reduceCtorEq, iff_false]
    omega

/-- Of two beginnings of a text the shorter one is a beginning of the other. -/
theorem exists_append_of_byteLength_le {xs' ys' : List Char}
    (h : xs ++ ys = xs' ++ ys') (hle : byteLength xs ≤ byteLength xs') :
    ∃ zs, xs' = xs ++ zs ∧ ys = zs ++ ys' := by
  rcases List.append_eq_append_iff.1 h with ⟨zs, hxs', hys⟩ | ⟨zs, hxs, hys'⟩
  · exact ⟨zs, hxs', hys⟩
  · -- the other way round the difference has no bytes
    have hzs : zs = [] := by
      rw [hxs, byteLength_append] at hle
      exact byteLength_eq_zero_iff.1 (by omega)
    exact ⟨[], by simp [hxs, hzs], by simp [hys', hzs]⟩

/-- A text is dropped up to a position exactly if it falls into two there. -/
theorem dropBytes?_eq_some_iff :
    dropBytes? n cs = some ys ↔ ∃ xs, cs = xs ++ ys ∧ byteLength xs = n := by
  constructor
  · intro h
    fun_induction dropBytes? n cs with
    | case1 cs => exact ⟨[], (Option.some.inj h), rfl⟩
    | case2 => cases h
    | case3 n c cs hle ih =>
      obtain ⟨xs, hcs, hlen⟩ := ih h
      refine ⟨c :: xs, by rw [hcs, List.cons_append], ?_⟩
      rw [byteLength_cons, hlen]
      omega
    | case4 => cases h
  · intro hsplits
    obtain ⟨xs, rfl, rfl⟩ := hsplits
    exact dropBytes?_byteLength_append xs ys

/-- A text is taken up to a position exactly if it falls into two there. -/
theorem takeBytes?_eq_some_iff :
    takeBytes? n cs = some xs ↔ ∃ ys, cs = xs ++ ys ∧ byteLength xs = n := by
  constructor
  · intro h
    fun_induction takeBytes? n cs generalizing xs with
    | case1 cs => exact ⟨cs, by rw [← Option.some.inj h, List.nil_append],
        by rw [← Option.some.inj h, byteLength_nil]⟩
    | case2 => cases h
    | case3 n c cs hle ih =>
      obtain ⟨zs, hzs, hxs⟩ := Option.map_eq_some_iff.1 h
      obtain ⟨ys, hcs, hlen⟩ := ih hzs
      refine ⟨ys, by rw [hcs, ← hxs, List.cons_append], ?_⟩
      rw [← hxs, byteLength_cons, hlen]
      omega
    | case4 => cases h
  · intro hsplits
    obtain ⟨ys, rfl, rfl⟩ := hsplits
    exact takeBytes?_byteLength_append xs ys

/-- A text can be dropped up to a position exactly if that is a boundary. -/
theorem dropBytes?_eq_none_iff : dropBytes? n cs = none ↔ ¬IsBoundary cs n := by
  rw [Option.eq_none_iff_forall_ne_some]
  constructor
  · intro h hbound
    obtain ⟨xs, ys, hcs, hlen⟩ := hbound
    exact h ys (dropBytes?_eq_some_iff.2 ⟨xs, hcs, hlen⟩)
  · intro h ys hys
    obtain ⟨xs, hcs, hlen⟩ := dropBytes?_eq_some_iff.1 hys
    exact h ⟨xs, ys, hcs, hlen⟩

/-- What is cut out between two positions is what stands there. -/
theorem slice?_eq_some_iff (hle : start ≤ stop) :
    slice? start stop cs = some part ↔ ∃ xs ys, cs = xs ++ (part ++ ys) ∧
      byteLength xs = start ∧ byteLength (xs ++ part) = stop := by
  rw [slice?, Option.bind_eq_some_iff]
  constructor
  · intro hsplits
    obtain ⟨zs, hdrop, htake⟩ := hsplits
    obtain ⟨xs, hcs, hstart⟩ := dropBytes?_eq_some_iff.1 hdrop
    obtain ⟨ys, hzs, hpart⟩ := takeBytes?_eq_some_iff.1 htake
    refine ⟨xs, ys, by rw [hcs, hzs], hstart, ?_⟩
    rw [byteLength_append, hstart, hpart]
    omega
  · intro hsplits
    obtain ⟨xs, ys, hcs, hstart, hstop⟩ := hsplits
    rw [byteLength_append] at hstop
    exact ⟨part ++ ys, dropBytes?_eq_some_iff.2 ⟨xs, hcs, hstart⟩,
      takeBytes?_eq_some_iff.2 ⟨ys, rfl, by omega⟩⟩

/-- A part can be cut out exactly between two boundaries. -/
theorem slice?_eq_none_iff (hle : start ≤ stop) :
    slice? start stop cs = none ↔ ¬(IsBoundary cs start ∧ IsBoundary cs stop) := by
  rw [Option.eq_none_iff_forall_ne_some]
  constructor
  · intro h hbounds
    obtain ⟨⟨xs, ys, hcs, hstart⟩, ⟨xs', ys', hcs', hstop⟩⟩ := hbounds
    obtain ⟨part, hxs', hys⟩ := exists_append_of_byteLength_le (hcs.symm.trans hcs')
      (by rw [hstart, hstop]; exact hle)
    refine h part ((slice?_eq_some_iff hle).2 ⟨xs, ys', ?_, hstart, ?_⟩)
    · rw [hcs, hys]
    · rw [← hxs', hstop]
  · intro h part hpart
    obtain ⟨xs, ys, hcs, hstart, hstop⟩ := (slice?_eq_some_iff hle).1 hpart
    refine h ⟨⟨xs, part ++ ys, hcs, hstart⟩, ⟨xs ++ part, ys, ?_, hstop⟩⟩
    rw [hcs, List.append_assoc]

end LinkReport.Text
