import RowGuard.Proofs.Expr.Confinement
import RowGuard.Proofs.Token.Spans

/-! Where a malformed text fails. The error points into the text: at a place up to its
end, where what it has found is written. -/

set_option autoImplicit false

namespace RowGuard

namespace Expr

variable {source : Source} {text entity : String}

theorem failure_pointsInto {token : Token} (inside : token.start ≤ source.text.length)
    (expected : String) : (source.failure expected token).PointsInto source.text := by
  refine ⟨_, rfl, inside, ?_⟩
  dsimp only
  split
  · rw [String.toList_empty]
    exact List.nil_prefix
  · rw [String.toList_ofList]
    exact List.take_prefix _ _

theorem start_le_of_scan {tokens : List Token} (scanned : Token.scan text = .ok tokens) :
    ∀ token ∈ tokens, token.start ≤ text.length := by
  obtain ⟨front, walk, rfl⟩ := Token.scan_eq_ok_iff.mp scanned
  intro token member
  rcases List.mem_append.mp member with found | last
  · obtain ⟨_, filled, inside⟩ := walk.within token found
    rw [Nat.zero_add, String.length_toList] at inside
    exact (filled.trans_le inside).le
  · rw [List.mem_singleton.mp last]
    exact Nat.le_refl _

theorem pointsInto_parse (text entity : String) :
    FailsWith (fun error => error.IsMalformed → error.PointsInto text.toList)
      (parse text entity) := by
  unfold parse
  refine .ite (fun _ => .ok _) fun _ => ?_
  apply FailsWith.bind
  · refine (Token.failsWith_scan text).mono ?_
    rintro error (points | stops)
    · exact fun _ => points
    · exact fun malformed => absurd malformed stops.fault.not_isMalformed
  · intro tokens scanned
    refine (refuses_ofTokens (ended_of_scan scanned)).mono ?_
    rintro error (rfl | ⟨token, member, expected, rfl⟩) malformed
    · obtain ⟨failure, same⟩ := malformed
      cases same
    · apply failure_pointsInto
      rw [String.length_toList]
      exact start_le_of_scan scanned token member

/-- A malformed text fails at a place up to its end, and what the failure has found is written there.
At the end nothing is found. -/
theorem malformed_points_into {failure : Malformed}
    (failed : parse text entity = .error (.malformed failure)) :
    failure.position ≤ text.length ∧
      failure.found.toList =
        (text.toList.drop failure.position).take failure.found.length ∧
      (failure.position = text.length → failure.found = "") := by
  obtain ⟨_, same, inside, written⟩ := pointsInto_parse text entity _ failed ⟨failure, rfl⟩
  cases same
  rw [String.length_toList] at inside
  have slice := List.prefix_iff_eq_take.mp written
  rw [String.length_toList] at slice
  refine ⟨inside, slice, fun atEnd => ?_⟩
  rw [List.drop_eq_nil_of_le (by rw [atEnd, String.length_toList])] at written
  exact String.toList_eq_nil_iff.mp (List.prefix_nil.mp written)

theorem malformed_points_into_peeked :
    parse "kind NOT 'open'" "Post" =
        .error (.malformed ⟨9, "IN, LIKE or ILIKE after NOT", "'open'"⟩) ∧
      "'open'".toList = ("kind NOT 'open'".toList.drop 9).take "'open'".length := by
  have failed : parse "kind NOT 'open'" "Post" =
      .error (.malformed ⟨9, "IN, LIKE or ILIKE after NOT", "'open'"⟩) := by
    with_unfolding_all rfl
  exact ⟨failed, (malformed_points_into failed).2.1⟩

end Expr

end RowGuard
