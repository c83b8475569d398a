import NvlinkFabric.Lib.Transition

/-!
# Last writers

A value that can be read at the end of a run was written by one of its inputs, and by
none after it, provided that every step leaves the value it finds or writes one.
-/

universe u v w

namespace Transition

variable {σ : Type u} {ι : Type v} {β : Type w} {step : σ → ι → σ}

variable (step) in
/-- Some input of the run writes the value, and none after it writes any. -/
def WrittenLast (writes : σ → ι → Option β) (start : σ) (inputs : List ι)
    (value : β) : Prop :=
  ∃ before input after, inputs = before ++ input :: after ∧
    writes (run step start before) input = some value ∧
    Along step (fun state later => writes state later = none)
      (run step start (before ++ [input])) after

/-- A value that is kept by an input which writes nothing is still the last written
one. -/
theorem WrittenLast.concat {writes : σ → ι → Option β} {start : σ} {inputs : List ι}
    {value : β} (written : WrittenLast step writes start inputs value) {input : ι}
    (silent : writes (run step start inputs) input = none) :
    WrittenLast step writes start (inputs ++ [input]) value := by
  obtain ⟨before, writer, after, rfl, writing, along⟩ := written
  refine ⟨before, writer, after ++ [input], by simp, writing, ?_⟩
  rw [along_append]
  refine ⟨along, ?_, trivial⟩
  rw [← run_append]
  simpa using silent

/-- What is read at the end of a run was written last by one of its inputs. -/
theorem writtenLast_of_reads {reads : σ → Option β}
    {writes : σ → ι → Option β} {start : σ} (initially : reads start = none)
    (kept : ∀ state input value, reads (step state input) = some value →
      writes state input = some value ∨ writes state input = none ∧
      reads state = some value)
    (inputs : List ι) {value : β} (found : reads (run step start inputs) = some value) :
    WrittenLast step writes start inputs value := by
  induction inputs using List.reverseRecOn with
  | nil => simp [initially] at found
  | append_singleton inputs input ih =>
      rw [run_append] at found
      rcases kept _ input value found with writing | ⟨silent, before⟩
      · exact ⟨inputs, input, [], rfl, writing, trivial⟩
      · exact (ih before).concat silent

end Transition
