import Multifiling.Database.EngineOptions
import Multifiling.Migration.Script
import Multifiling.Proofs.Entries
import Multifiling.Proofs.Traverse

/-!
The database URL that migrations use. It is set as an option whose value may refer to others, and
read back. With its percent signs doubled a URL comes back as it was (`pass_doubled`); it is set as
it is, so that a URL with percent signs is refused or comes back with fewer of them
(`pass_eq_ok_iff`), and migrations would go to another database than the application.
-/

namespace Multifiling.Database.IniOption

variable {v w : String → Except IniError (List Char)} {skip depth : Nat} {cs out : List Char}
  {options : Entries String String}

/-! ### Doubled percent signs -/

/-- A text with each percent sign doubled. -/
def doubled : List Char → List Char
  | [] => []
  | c :: cs => if c = '%' then '%' :: '%' :: doubled cs else c :: doubled cs

theorem doubled_of_notMem (h : '%' ∉ cs) : doubled cs = cs := by
  induction cs with
  | nil => rfl
  | cons c cs ih =>
    rw [List.mem_cons, not_or] at h
    rw [doubled, if_neg (Ne.symm h.1), ih h.2]

theorem notMem_dropDoubled_doubled (cs : List Char) : '%' ∉ dropDoubled (doubled cs) := by
  induction cs with
  | nil => exact nofun
  | cons c cs ih =>
    rw [doubled]
    split
    · exact ih
    · next hc =>
      rw [dropDoubled, List.mem_cons, not_or]
      · exact ⟨Ne.symm hc, ih⟩
      · rintro _ rfl
        exact fun _ => hc rfl

theorem onlyReferences_of_notMem (h : '%' ∉ cs) : onlyReferences 0 cs = true := by
  induction cs with
  | nil => rfl
  | cons c cs ih =>
    rw [List.mem_cons, not_or] at h
    rw [onlyReferences, if_neg (Ne.symm h.1), ih h.2]

theorem check_doubled (cs : List Char) : check (String.ofList (doubled cs)) = .ok () := by
  rw [check, String.toList_ofList, onlyReferences_of_notMem (notMem_dropDoubled_doubled cs),
    if_pos rfl]

theorem expandWith_doubled (v : String → Except IniError (List Char)) (cs : List Char) :
    expandWith v 0 (doubled cs) = .ok cs := by
  induction cs with
  | nil => rfl
  | cons c cs ih =>
    rw [doubled]
    split
    · next hc =>
      rw [expandWith, if_neg (by simp), List.head?_cons, if_pos rfl, expandWith, ih, hc]
      rfl
    · next hc =>
      rw [expandWith, if_pos hc, ih]
      rfl

/-! ### Percent signs that are read back -/

/-- A text that can be expanded begins with a plain character, with two percent signs, or with a
reference whose name has a value. -/
theorem expandWith_cons_eq_ok_iff {c : Char} : expandWith v 0 (c :: cs) = .ok out ↔
    (c ≠ '%' ∧ ∃ rest, expandWith v 0 cs = .ok rest ∧ c :: rest = out) ∨
      (c = '%' ∧ cs.head? = some '%' ∧ ∃ rest, expandWith v 1 cs = .ok rest ∧ '%' :: rest = out) ∨
      (c = '%' ∧ cs.head? ≠ some '%' ∧ ∃ name follows before after,
        reference? (c :: cs) = some (name, follows) ∧
          v (Text.lowerAscii (String.ofList name)) = .ok before ∧
          expandWith v (name.length + 3) cs = .ok after ∧ before ++ after = out) := by
  rw [expandWith]
  constructor
  · intro h
    split at h
    · exact .inl ⟨‹_›, map_eq_ok.mp h⟩
    · next hc =>
      split at h
      · exact .inr (.inl ⟨not_not.mp hc, ‹_›, map_eq_ok.mp h⟩)
      · split at h
        · cases h
        · next name follows hname =>
          obtain ⟨before, hbefore, h⟩ := bind_eq_ok.mp h
          obtain ⟨after, hafter, h⟩ := bind_eq_ok.mp h
          exact .inr (.inr ⟨not_not.mp hc, ‹_›, name, follows, before, after, hname, hbefore,
            hafter, Except.ok.inj h⟩)
  · rintro (⟨hc, rest, hrest, rfl⟩ | ⟨rfl, hnext, rest, hrest, rfl⟩ |
      ⟨rfl, hnext, name, follows, before, after, hname, hbefore, hafter, rfl⟩)
    · rw [if_pos hc, hrest]
      rfl
    · rw [if_neg (by simp), if_pos hnext, hrest]
      rfl
    · rw [if_neg (by simp), if_neg hnext, hname]
      simp only
      rw [hbefore, hafter]
      rfl

/-- Where more names have values, no less can be expanded. -/
theorem expandWith_mono (hvw : ∀ name chars, v name = .ok chars → w name = .ok chars)
    (h : expandWith v skip cs = .ok out) : expandWith w skip cs = .ok out := by
  induction cs generalizing skip out with
  | nil => rwa [expandWith] at h ⊢
  | cons c cs ih =>
    cases skip with
    | succ skip => rw [expandWith] at h ⊢; exact ih h
    | zero =>
      rw [expandWith_cons_eq_ok_iff] at h ⊢
      rcases h with ⟨hc, rest, hrest, hout⟩ | ⟨hc, hnext, rest, hrest, hout⟩ |
        ⟨hc, hnext, name, follows, before, after, hname, hbefore, hafter, hout⟩
      · exact .inl ⟨hc, rest, ih hrest, hout⟩
      · exact .inr (.inl ⟨hc, hnext, rest, ih hrest, hout⟩)
      · exact .inr (.inr ⟨hc, hnext, name, follows, before, after, hname, hvw _ _ hbefore,
          ih hafter, hout⟩)

/-- Of a text whose references have values without percent signs, at most half of the percent signs
are left. -/
theorem count_expandWith (hv : ∀ name chars, v name = .ok chars → '%' ∉ chars)
    (h : expandWith v skip cs = .ok out) : 2 * out.count '%' ≤ (cs.drop skip).count '%' := by
  induction cs generalizing skip out with
  | nil => rw [expandWith] at h; cases h; simp
  | cons c cs ih =>
    cases skip with
    | succ skip => rw [expandWith] at h; exact ih h
    | zero =>
      rw [expandWith_cons_eq_ok_iff] at h
      rw [List.drop_zero]
      rcases h with ⟨hc, rest, hrest, rfl⟩ | ⟨rfl, hnext, rest, hrest, rfl⟩ |
        ⟨rfl, -, name, -, before, after, -, hbefore, hafter, rfl⟩
      · rw [List.count_cons_of_ne hc, List.count_cons_of_ne hc]
        exact ih hrest
      · -- of two percent signs one is left
        obtain ⟨cs, rfl⟩ := List.head?_eq_some_iff.mp hnext
        have hle := ih hrest
        rw [List.drop_one, List.tail_cons] at hle
        simp only [List.count_cons_self]
        omega
      · -- a reference brings none in
        have hle := ih hafter
        have hdrop := (List.drop_sublist (name.length + 3) cs).count_le '%'
        rw [List.count_append, List.count_eq_zero.mpr (hv _ _ hbefore), List.count_cons_self]
        omega

/-- The value of an option as a reference to it is expanded. -/
theorem expand_succ (options : Entries String String) (depth : Nat) (cs : List Char) :
    expand options (depth + 1) cs =
      expandWith (fun name =>
        match options.get? name with
        | none => .error (.missingOption name)
        | some value =>
          if value.toList.contains '%' then expand options depth value.toList
          else .ok value.toList) 0 cs := rfl

/-- What can be expanded comes out the same where deeper nesting is allowed. -/
theorem expand_deeper (h : expand options depth cs = .ok out) :
    expand options (depth + 1) cs = .ok out := by
  induction depth generalizing cs out with
  | zero => cases h
  | succ depth ih =>
    rw [expand_succ] at h ⊢
    refine expandWith_mono (fun name chars hchars => ?_) h
    split at hchars
    · cases hchars
    · split at hchars
      · rw [if_pos ‹_›]
        exact ih hchars
      · rw [if_neg ‹_›]
        exact hchars

/-- A value of which nothing but itself has percent signs keeps at most half of them. -/
theorem count_expand {value : String}
    (hothers : ∀ name other, options.get? name = some other → '%' ∈ other.toList → other = value)
    (h : expand options depth value.toList = .ok out) :
    2 * out.count '%' ≤ value.toList.count '%' := by
  induction depth generalizing out with
  | zero => cases h
  | succ depth ih =>
    cases hless : expand options depth value.toList with
    | ok chars =>
      have hsame := (expand_deeper hless).symm.trans h
      cases hsame
      exact ih hless
    | error e =>
      -- with so little depth the value cannot refer to itself
      rw [expand_succ] at h
      refine count_expandWith (fun name chars hchars => ?_) h
      split at hchars
      · cases hchars
      · next other hother =>
        split at hchars
        · next hpercent =>
          rw [hothers name other hother (List.contains_iff_mem.mp hpercent), hless] at hchars
          cases hchars
        · next hpercent =>
          cases hchars
          exact fun hmem => hpercent (List.contains_iff_mem.mpr hmem)

end Multifiling.Database.IniOption

namespace Multifiling.Migration

open Database Database.IniOption

variable {option : UrlOption} {url read : String}

/-- A URL whose percent signs are doubled before it is set comes back as it was. -/
theorem UrlOption.pass_doubled (option : UrlOption) (url : String) :
    option.pass (String.ofList (doubled url.toList)) = .ok url := by
  rw [pass, setAndGet, check_doubled]
  change (expand _ 10 _ >>= _) = _
  rw [expand_succ, String.toList_ofList, expandWith_doubled]
  exact congrArg Except.ok String.ofList_toList

theorem UrlOption.count_pass (hothers : ∀ e ∈ option.others, '%' ∉ e.2.toList)
    (h : option.pass url = .ok read) : 2 * read.toList.count '%' ≤ url.toList.count '%' := by
  rw [pass, setAndGet] at h
  obtain ⟨_, -, h⟩ := bind_eq_ok.mp h
  obtain ⟨chars, hchars, h⟩ := bind_eq_ok.mp h
  cases h
  rw [String.toList_ofList]
  refine count_expand (fun name other hother hpercent => ?_) hchars
  rw [Entries.get?_put] at hother
  split at hother
  · exact (Option.some.inj hother).symm
  · exact absurd hpercent (hothers _ (Entries.mem_of_get? hother))

/-- Migrations use the configured URL just where it has no percent sign. With one, it is refused or
another URL is used, with at most half as many. -/
theorem UrlOption.pass_eq_ok_iff (option : UrlOption)
    (hothers : ∀ e ∈ option.others, '%' ∉ e.2.toList) (url : String) :
    (option.pass url = .ok url ↔ '%' ∉ url.toList) ∧
      ∀ read, option.pass url = .ok read → 2 * read.toList.count '%' ≤ url.toList.count '%' := by
  refine ⟨⟨fun h hmem => ?_, fun h => ?_⟩, fun read => count_pass hothers⟩
  · have hle := count_pass hothers h
    have hpos := List.count_pos_iff.mpr hmem
    omega
  · have hpass := option.pass_doubled url
    rwa [doubled_of_notMem h, String.ofList_toList] at hpass

theorem UrlOption.pass_eq_ok_iff_plainUrl :
    (∀ e ∈ (UrlOption.mk "sqlalchemy.url" [("prepend_sys_path", "src")]).others,
        '%' ∉ e.2.toList) ∧
      (UrlOption.mk "sqlalchemy.url" [("prepend_sys_path", "src")]).pass "sqlite:///a.db" =
        .ok "sqlite:///a.db" := by
  have hothers : ∀ e ∈ (UrlOption.mk "sqlalchemy.url" [("prepend_sys_path", "src")]).others,
      '%' ∉ e.2.toList := by decide
  exact ⟨hothers, (UrlOption.pass_eq_ok_iff _ hothers "sqlite:///a.db").1.mpr (by decide)⟩

/-- The application connects with a password that has a percent sign for its at sign, or with two
percent signs in the name of the database. Migrations refuse the one and open another database with
the other. -/
theorem UrlOption.pass_percentSign :
    let option : UrlOption := ⟨"sqlalchemy.url", [("prepend_sys_path", "src")]⟩
    let password := "postgresql+asyncpg://u:p%40ss@h/d"
    let file := "sqlite+aiosqlite:///a%%b.db"
    EngineOptions.ofUrl password ⟨5, 10⟩ = .ok ⟨false, true, some ⟨5, 10⟩⟩ ∧
      option.pass password = .error .badPercent ∧
      EngineOptions.ofUrl file ⟨5, 10⟩ = .ok ⟨false, true, none⟩ ∧
      option.pass file = .ok "sqlite+aiosqlite:///a%b.db" := by
  decide +kernel

end Multifiling.Migration
