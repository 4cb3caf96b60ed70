import Mathlib.Data.List.Basic
import Mathlib.Data.List.Induction
import ProxyWatch.Capture.Command
import ProxyWatch.Proofs.Text.Pattern

/-! The arguments of a capture with a direct connection. What a template leaves out for it can be read off the template;
what is left out when the arguments are rendered one by one depends on those rendered before. -/
namespace ProxyWatch.CaptureCommand

/-- The argument mentions the proxy. -/
def mentionsProxy (arg : List Char) : Bool := containsWord proxyMark arg

/-- The argument looks like an option. -/
def isOption (arg : List Char) : Bool := arg.head? == some '-'

/-- The argument goes with a direct connection: it mentions the proxy, or it is an option and the next argument does. -/
def goes (arg : List Char) (next : Option (List Char)) : Bool :=
  mentionsProxy arg || (isOption arg && next.any mentionsProxy)

/-- What a template keeps for a direct connection. -/
def kept : List (List Char) → List (List Char)
  | [] => []
  | arg :: args => if goes arg args.head? then kept args else arg :: kept args

/-- The arguments that a template keeps, with the id of the target. -/
def keptFor (target : List Char) (args : List (List Char)) : List (List Char) :=
  (kept args).map (substitute targetMark target)

/-- The arguments for a direct connection, as the template says. -/
def direct (c : CaptureCommand) (target : String) : List String :=
  (keptFor target.toList (c.args.map String.toList)).map String.ofList

/-- The last argument kept before one that mentions the proxy looks like an option only if it is an option right before
it in the template. -/
def OptionInPlace (target : List Char) (before : List (List Char)) (arg : List Char) : Prop :=
  mentionsProxy arg = true → ∀ last, (keptFor target before).getLast? = some last → isOption last = true →
    ∃ option, before.getLast? = some option ∧ isOption option = true ∧ mentionsProxy option = false

/-- This holds of every argument of a template. -/
def OptionsInPlace (target : List Char) (args : List (List Char)) : Prop :=
  ∀ before arg after, args = before ++ arg :: after → OptionInPlace target before arg

/-- The arguments rendered one by one, without a proxy. -/
def rendered (target : List Char) (args : List (List Char)) : List (List Char) :=
  args.foldl (renderOne target none) []

variable {target arg option : List Char} {args before done xs ys : List (List Char)}

/-! One argument more -/

theorem renderOne_direct : renderOne target none done arg =
    if mentionsProxy arg then (if done.getLast?.any isOption then done.dropLast else done)
    else done ++ [substitute targetMark target arg] := by
  unfold renderOne mentionsProxy
  split
  · cases hl : done.getLast? with
    | none => rfl
    | some last =>
      rcases last with - | ⟨c, r⟩
      · rfl
      · by_cases hc : c = '-'
        · subst hc
          rfl
        · simp [isOption, hc]
  · rfl

theorem rendered_concat : rendered target (args ++ [arg]) = renderOne target none (rendered target args) arg := by
  simp [rendered, List.foldl_append]

/-- A template can be cut where no option has an argument right behind it that mentions the proxy. -/
theorem kept_append (h : ∀ o, xs.getLast? = some o → isOption o = true → mentionsProxy o = false →
    ys.head?.any mentionsProxy = false) : kept (xs ++ ys) = kept xs ++ kept ys := by
  induction xs with
  | nil => rfl
  | cons x xs ih =>
    rcases xs with - | ⟨y, xs⟩
    · cases hm : mentionsProxy x <;> cases ho : isOption x <;> simp_all [kept, goes]
    · have hrest := ih (by simpa using h)
      by_cases hx : goes x (some y) = true
      · have hall : kept (x :: (y :: xs ++ ys)) = kept (y :: xs ++ ys) := if_pos hx
        have hfront : kept (x :: y :: xs) = kept (y :: xs) := if_pos hx
        rw [List.cons_append, hall, hrest, hfront]
      · have hall : kept (x :: (y :: xs ++ ys)) = x :: kept (y :: xs ++ ys) := if_neg hx
        have hfront : kept (x :: y :: xs) = x :: kept (y :: xs) := if_neg hx
        rw [List.cons_append, hall, hrest, hfront, List.cons_append]

theorem keptFor_other (ha : mentionsProxy arg = false) :
    keptFor target (args ++ [arg]) = keptFor target args ++ [substitute targetMark target arg] := by
  have hk : kept (args ++ [arg]) = kept args ++ [arg] := by
    rw [kept_append (by simp [ha])]
    simp [kept, goes, ha]
  simp [keptFor, hk]

/-- An option goes with the argument right behind it. -/
theorem keptFor_option (ha : mentionsProxy arg = true) (ho : isOption option = true)
    (hm : mentionsProxy option = false) :
    keptFor target (before ++ [option] ++ [arg]) = keptFor target before := by
  have hk : kept (before ++ [option, arg]) = kept before := by
    rw [kept_append (by simp [hm])]
    simp [kept, goes, ha, ho]
  simp [keptFor, hk]

theorem keptFor_alone (ha : mentionsProxy arg = true)
    (h : ∀ o, args.getLast? = some o → isOption o = true → mentionsProxy o = true) :
    keptFor target (args ++ [arg]) = keptFor target args := by
  have hk : kept (args ++ [arg]) = kept args := by
    rw [kept_append fun o hl ho hm => absurd (h o hl ho) (by simp [hm])]
    simp [kept, goes, ha]
  simp [keptFor, hk]

/-- What looks like an option in the template does so when it is rendered. -/
theorem isOption_substitute (h : isOption arg = true) : isOption (substitute targetMark target arg) = true := by
  rcases arg with - | ⟨c, r⟩
  · simp [isOption] at h
  · obtain rfl : c = '-' := by simpa [isOption] using h
    have hmark : targetMark.head? = some '\x7b' := by decide
    have hn : Pattern.literal targetMark target ('-' :: r) = none := by
      refine if_neg fun hp => ?_
      obtain ⟨rest, he⟩ := List.isPrefixOf_iff_prefix.mp hp
      have hhead := congrArg List.head? he
      simp [List.head?_append, hmark] at hhead
    rw [substitute, Pattern.replaceAll_of_none hn]
    rfl

/-! The whole template -/

/-- When one argument more is rendered, something goes in both ways or only when they are rendered one by one. -/
theorem rendered_concat_cases (target : List Char) (args : List (List Char)) (arg : List Char) :
    (mentionsProxy arg = false ∧
      rendered target (args ++ [arg]) = rendered target args ++ [substitute targetMark target arg] ∧
      keptFor target (args ++ [arg]) = keptFor target args ++ [substitute targetMark target arg]) ∨
    (mentionsProxy arg = true ∧ ∃ before option, args = before ++ [option] ∧ isOption option = true ∧
      mentionsProxy option = false ∧ rendered target (args ++ [arg]) = rendered target before ∧
      keptFor target (args ++ [arg]) = keptFor target before) ∨
    (mentionsProxy arg = true ∧ keptFor target (args ++ [arg]) = keptFor target args ∧
      (∀ o, args.getLast? = some o → isOption o = true → mentionsProxy o = true) ∧
      rendered target (args ++ [arg]) = if (rendered target args).getLast?.any isOption
        then (rendered target args).dropLast else rendered target args) := by
  rw [rendered_concat, renderOne_direct]
  cases ha : mentionsProxy arg with
  | false => exact .inl ⟨rfl, rfl, keptFor_other ha⟩
  | true =>
    right
    by_cases h : ∀ o, args.getLast? = some o → isOption o = true → mentionsProxy o = true
    · exact .inr ⟨rfl, keptFor_alone ha h, h, rfl⟩
    · left
      push Not at h
      obtain ⟨option, hl, ho, hm⟩ := h
      have hm : mentionsProxy option = false := by simpa using hm
      obtain ⟨before, rfl⟩ := List.getLast?_eq_some_iff.mp hl
      refine ⟨rfl, before, option, rfl, ho, hm, ?_, keptFor_option ha ho hm⟩
      simp [rendered_concat, renderOne_direct, hm, isOption_substitute ho]

/-- Rendering one by one leaves out as much at least. -/
theorem length_rendered_le : (rendered target args).length ≤ (keptFor target args).length := by
  induction args using List.reverseRecOn with
  | nil => exact Nat.le_refl 0
  | append_singleton args arg ih =>
    rcases rendered_concat_cases target args arg with
      ⟨-, hr, hk⟩ | ⟨-, before, option, rfl, -, hm, hr, hk⟩ | ⟨-, hk, -, hr⟩
    · simp [hr, hk, ih]
    · rw [rendered_concat, renderOne_direct, keptFor_other hm] at ih
      rw [hr, hk]
      simpa [hm] using ih
    · rw [hr, hk]
      split
      · rw [List.length_dropLast]
        omega
      · exact ih

/-- Both ways go on to agree if the next argument takes no option with it that it should not. -/
theorem rendered_concat_eq_iff : rendered target (args ++ [arg]) = keptFor target (args ++ [arg]) ↔
    rendered target args = keptFor target args ∧ OptionInPlace target args arg := by
  rcases rendered_concat_cases target args arg with
    ⟨ha, hr, hk⟩ | ⟨-, before, option, rfl, ho, hm, hr, hk⟩ | ⟨ha, hk, hno, hr⟩
  · simp [hr, hk, OptionInPlace, ha]
  · have hplace : OptionInPlace target (before ++ [option]) arg := fun _ _ _ _ => ⟨option, by simp, ho, hm⟩
    rw [hr, hk, rendered_concat, renderOne_direct, keptFor_other hm]
    simp [hm, hplace]
  · rw [hr, hk]
    constructor
    · intro he
      split at he
      · rename_i hany
        have hle : (rendered target args).length ≤ (keptFor target args).length := length_rendered_le
        have hpos : (rendered target args) ≠ [] := by
          intro hnil
          simp [hnil] at hany
        have := List.length_pos_iff.mpr hpos
        rw [← he, List.length_dropLast] at hle
        omega
      · rename_i hany
        refine ⟨he, fun _ last hl ho => absurd ?_ hany⟩
        simp [he, hl, ho]
    · rintro ⟨he, hplace⟩
      rw [if_neg, he]
      intro hany
      obtain ⟨last, hl, ho⟩ := (Option.any_eq_true _ _).mp hany
      obtain ⟨option, hlast, hopt, hm⟩ := hplace ha last (he ▸ hl) ho
      rw [hno option hlast hopt] at hm
      cases hm

theorem optionsInPlace_concat : OptionsInPlace target (args ++ [arg]) ↔
    OptionsInPlace target args ∧ OptionInPlace target args arg := by
  constructor
  · intro h
    refine ⟨fun before a after he => h before a (after ++ [arg]) (by simp [he]), h args arg [] rfl⟩
  · rintro ⟨h, ha⟩ before a after he
    rcases List.eq_nil_or_concat after with rfl | ⟨after, last, rfl⟩
    · obtain ⟨rfl, he⟩ := List.append_inj' he rfl
      obtain rfl : arg = a := by simpa using he
      exact ha
    · rw [List.concat_eq_append, ← List.cons_append, ← List.append_assoc] at he
      exact h before a after (List.append_inj' he rfl).1

theorem rendered_eq_iff : rendered target args = keptFor target args ↔ OptionsInPlace target args := by
  induction args using List.reverseRecOn with
  | nil =>
    have h : OptionsInPlace target [] := by
      intro before a after he
      simp at he
    exact iff_of_true rfl h
  | append_singleton args arg ih => rw [rendered_concat_eq_iff, optionsInPlace_concat, ih]

/-- With a direct connection the arguments are those that the template says, exactly if no option is taken for one right
before the proxy that is not. -/
theorem render_eq_direct_iff (c : CaptureCommand) (target : String) :
    c.render target none = c.direct target ↔ OptionsInPlace target.toList (c.args.map String.toList) := by
  have hinj : Function.Injective String.ofList := fun a b h => by simpa using congrArg String.toList h
  rw [← rendered_eq_iff]
  exact (List.map_injective_iff.mpr hinj).eq_iff

/-- Two arguments for the proxy in a row take an option in front with them that belongs to neither, and a target goes
whose id looks like an option. -/
theorem render_loses_option :
    ({ args := ["--force", "--proxy", "\x7bproxy\x7d", "--tls-proxy=\x7bproxy\x7d", "out"] } : CaptureCommand).render "a"
      none = ["out"] ∧
    ({ args := ["\x7btarget\x7d", "\x7bproxy\x7d"] } : CaptureCommand).render "-x" none = [] ∧
    ¬ ∀ (c : CaptureCommand) (target : String), c.render target none = c.direct target := by
  refine ⟨by decide +kernel, by decide +kernel, fun h => ?_⟩
  have he := h { args := ["\x7btarget\x7d", "\x7bproxy\x7d"] } "-x"
  exact absurd he (by decide +kernel)

end ProxyWatch.CaptureCommand
