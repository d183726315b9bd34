import QueryAudit.Proofs.Url.Percent
import QueryAudit.Proofs.Url.Written
/-!
# Paths that are read back

`Path.parse_render`: a settled path is read from what it is written as. Every path that is read is settled:
`Path.settled_parse`.
-/

namespace QueryAudit.Url.Path

/-- A segment that stands for itself, and that no slash divides. -/
structure Plain (s : List Char) : Prop where
  clean : Percent.Clean Percent.pathSet s
  slash : ∀ c ∈ s, isSlash c = false
  single : isSingleDot s = false
  double : isDoubleDot s = false

/-- A path as it is once it is read. -/
structure Settled (p : Path) : Prop where
  ne_nil : p ≠ []
  plain : ∀ s ∈ p, Plain s

theorem plain_nil : Plain [] := ⟨nofun, nofun, rfl, rfl⟩

/-! ## What is written -/

theorem resolve_of_plain {segments : List (List Char)} (h : ∀ s ∈ segments, Plain s) (done : List (List Char)) :
    resolve done segments = done.reverse ++ segments := by
  induction segments generalizing done with
  | nil => rw [resolve, List.append_nil]
  | cons s segments ih =>
    obtain ⟨hs, hsegments⟩ := List.forall_mem_cons.1 h
    have hdouble : ¬isDoubleDot s = true := by simp [hs.double]
    have hsingle : ¬isSingleDot s = true := by simp [hs.single]
    cases segments with
    | nil => rw [resolve, if_neg hdouble, if_neg hsingle, List.reverse_cons]
    | cons next rest =>
      rw [resolve, if_neg hdouble, if_neg hsingle, ih hsegments, List.reverse_cons, List.append_assoc]
      rfl

theorem render_eq {p : Path} (h : p ≠ []) : p.render = '/' :: ['/'].intercalate p := by
  induction p with
  | nil => exact absurd rfl h
  | cons s p ih =>
    cases p with
    | nil => simp [render]
    | cons next rest =>
      rw [List.intercalate_cons_cons, List.append_assoc, List.singleton_append, ← ih (List.cons_ne_nil _ _)]
      rfl

theorem forall_mem_render {p : Path} (h : p.Settled) {P : Char → Prop} (hslash : P '/')
    (hsegment : ∀ s, Plain s → ∀ c ∈ s, P c) : ∀ c ∈ p.render, P c := by
  intro c hc
  obtain ⟨s, hs, hc⟩ := List.mem_flatMap.1 hc
  rcases List.mem_cons.1 hc with rfl | hc
  · exact hslash
  · exact hsegment s (h.plain s hs) c hc

theorem parse_render {p : Path} (h : p.Settled) : parse p.render = p := by
  have hback : p.render.map (fun c => if c = '\\' then '/' else c) = p.render := by
    have hsame : ∀ c ∈ p.render, (if c = '\\' then '/' else c) = c := by
      refine forall_mem_render h (by decide) fun s hs c hc => if_neg ?_
      rintro rfl
      exact absurd (hs.slash _ hc) (by decide)
    rw [List.map_congr_left hsame, List.map_id']
  have hcut : Text.cutAt '/' (['/'].intercalate p) = p :=
    Text.cutAt_intercalate_of_not_mem h.ne_nil fun s hs hslash => absurd ((h.plain s hs).slash _ hslash) (by decide)
  have hencode : p.map (Percent.encode Percent.pathSet) = p := by
    rw [List.map_congr_left fun s hs => (h.plain s hs).clean.encode, List.map_id']
  unfold parse
  rw [hback]
  dsimp only
  rw [render_eq h.ne_nil, List.head?_cons, if_pos rfl, List.drop_one, List.tail_cons, hcut, hencode,
    resolve_of_plain h.plain]
  rfl

/-! ## What is read -/

theorem resolve_ne_nil {segments : List (List Char)} (h : segments ≠ []) (done : List (List Char)) :
    resolve done segments ≠ [] := by
  induction done, segments using resolve.induct with
  | case1 => exact absurd rfl h
  | case2 done s hdouble => simp [resolve, hdouble]
  | case3 done s hdouble hsingle => simp [resolve, hdouble, hsingle]
  | case4 done s hdouble hsingle => simp [resolve, hdouble, hsingle]
  | case5 done s next rest hdouble ih =>
    rw [resolve, if_pos hdouble]
    exact ih (List.cons_ne_nil _ _)
  | case6 done s next rest hdouble hsingle ih =>
    rw [resolve, if_neg hdouble, if_pos hsingle]
    exact ih (List.cons_ne_nil _ _)
  | case7 done s next rest hdouble hsingle ih =>
    rw [resolve, if_neg hdouble, if_neg hsingle]
    exact ih (List.cons_ne_nil _ _)

/-- What stands between two slashes, encoded. -/
theorem isSlash_of_mem_encode {part : List Char} (h : ∀ c ∈ part, isSlash c = false) :
    ∀ c ∈ Percent.encode Percent.pathSet part, isSlash c = false := by
  intro c hc
  rcases Percent.of_mem_encode hc with rfl | hdigit | ⟨hmem, -⟩
  · rfl
  · exact forall_ascii (P := fun c => IsHexDigit c → isSlash c = false) (by decide +kernel) hdigit.toNat_lt hdigit
  · exact h c hmem

theorem settled_parse (s : List Char) : (parse s).Settled := by
  unfold parse
  dsimp only
  -- What is cut at slashes has no backslashes left, whether or not a slash is taken from its front.
  have hback : ∀ c ∈ s.map (fun c => if c = '\\' then '/' else c), c ≠ '\\' := by
    intro c hc
    obtain ⟨d, -, rfl⟩ := List.mem_map.1 hc
    split
    · decide
    · assumption
  generalize s.map (fun c => if c = '\\' then '/' else c) = t at hback
  have hbehind : ∀ c ∈ if t.head? = some '/' then t.drop 1 else t, c ≠ '\\' := by
    split
    · exact fun c hc => hback c (List.mem_of_mem_drop hc)
    · exact hback
  generalize (if t.head? = some '/' then t.drop 1 else t) = t at hbehind
  constructor
  · exact resolve_ne_nil (by simp [Text.cutAt_ne_nil]) []
  · refine forall_mem_resolve plain_nil nofun fun segment hsegment hdouble hsingle => ?_
    obtain ⟨part, hpart, rfl⟩ := List.mem_map.1 hsegment
    have hslash : ∀ c ∈ part, isSlash c = false := by
      intro c hc
      obtain ⟨hmem, hne⟩ := Text.of_mem_cutAt hpart c hc
      simp [isSlash, hne, hbehind c hmem]
    exact ⟨Percent.clean_encode Percent.spares_pathSet part, isSlash_of_mem_encode hslash, by simpa using hsingle,
      by simpa using hdouble⟩

end QueryAudit.Url.Path
