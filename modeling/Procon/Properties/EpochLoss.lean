import Procon.Construction.TrainModel

/-!
# The loss of an epoch

After a pass, `train_model` prints the sum of the batch means, each weighted by `batch_size`,
divided by the size of the dataset.  `lossesOf` are the losses of the samples of a pass, batch by
batch, each under the network of its moment.  `epoch_loss_iff` says that the loss of an epoch and a
phase, as it is before the line rounds it to four digits, is the mean of these losses exactly when
the batch size divides the size of the dataset or the losses of the short last batch sum to zero.
No dataset is empty here; a pass over an empty one would end the training.
-/

namespace Procon.TrainModel

open Batches

variable {Net Sample : Type*} (learner : Learner Net Sample) (dataloaders_dict : Dataloaders Sample)
  (num_epochs : ℕ) (net : Net)

/-! ## One pass -/

/-- The losses of the samples of a pass, batch by batch. -/
def passLosses (phase : Phase) : List (List Sample) → Net → List (List ℚ)
  | [], _ => []
  | batch :: rest, net =>
      learner.losses phase (learner.zero_grad net) batch ::
        passLosses phase rest (learner.next phase net batch)

lemma map_length_passLosses (phase : Phase) (batches : List (List Sample)) :
    (passLosses learner phase batches net).map List.length = batches.map List.length := by
  induction batches generalizing net with
  | nil => rfl
  | cons batch rest ih => simp [passLosses, ih, Learner.losses]

/-- The invariant of the batch loop: `epoch_loss` is the sum of the weighted means so far. -/
lemma epoch_loss_foldl (phase : Phase) (batch_size : ℕ) (batches : List (List Sample))
    (vars : BatchLoop Net) :
    (batches.foldl (BatchLoop.step learner phase batch_size) vars).epoch_loss =
      vars.epoch_loss + ((passLosses learner phase batches vars.net).map fun losses =>
        mean losses * (batch_size : ℚ)).sum := by
  induction batches generalizing vars with
  | nil => simp [passLosses]
  | cons batch rest ih =>
      rw [List.foldl_cons, ih, passLosses, List.map_cons, List.sum_cons, ← add_assoc]
      rfl

lemma epoch_loss_batchLoop (phase : Phase) (batch_size : ℕ) (batches : List (List Sample)) :
    (batchLoop learner phase batch_size batches net).epoch_loss =
      ((passLosses learner phase batches net).map fun losses =>
        mean losses * (batch_size : ℚ)).sum := by
  rw [batchLoop, epoch_loss_foldl]
  exact zero_add _

/-- The batch loop prints nothing about the epoch. -/
lemma epoch_notMem_printed (phase : Phase) (batch_size : ℕ) (batches : List (List Sample))
    {epoch n : ℕ} {phase' : Phase} {loss acc : ℚ} :
    .epoch epoch n phase' loss acc ∉ (batchLoop learner phase batch_size batches net).printed := by
  have hfold : ∀ (batches : List (List Sample)) (vars : BatchLoop Net),
      .epoch epoch n phase' loss acc ∉ vars.printed →
        .epoch epoch n phase' loss acc ∉
          (batches.foldl (BatchLoop.step learner phase batch_size) vars).printed := by
    intro batches
    induction batches with
    | nil => exact fun vars h => h
    | cons batch rest ih =>
        intro vars h
        refine ih _ ?_
        rw [BatchLoop.step]
        dsimp only
        split <;> simp [h]
  exact hfold batches _ List.not_mem_nil

/-! ## The epochs -/

/-- The state before an epoch. -/
def beforeEpoch (epoch : ℕ) : Training Net :=
  (List.range epoch).foldl (runEpoch learner dataloaders_dict num_epochs) (.start learner net)

/-- The state before a phase of an epoch. -/
def beforePhase (epoch : ℕ) : Phase → Training Net
  | .train => beforeEpoch learner dataloaders_dict num_epochs net epoch
  | .val => runPhase learner dataloaders_dict num_epochs epoch
      (beforeEpoch learner dataloaders_dict num_epochs net epoch) .train

/-- The losses of the samples in a phase of an epoch, batch by batch. -/
def lossesOf (epoch : ℕ) (phase : Phase) : List (List ℚ) :=
  passLosses learner phase ((dataloaders_dict.get phase).batches epoch)
    (beforePhase learner dataloaders_dict num_epochs net epoch phase).net

/-- The batch loop of a phase of an epoch. -/
def loopOf (epoch : ℕ) (phase : Phase) : BatchLoop Net :=
  batchLoop learner phase (dataloaders_dict.get .train).batch_size
    ((dataloaders_dict.get phase).batches epoch)
    (beforePhase learner dataloaders_dict num_epochs net epoch phase).net

/-- What a phase of an epoch prints. -/
def linesOf (epoch : ℕ) (phase : Phase) : List Line :=
  (loopOf learner dataloaders_dict num_epochs net epoch phase).printed ++
    [.epoch (epoch + 1) num_epochs phase
      ((loopOf learner dataloaders_dict num_epochs net epoch phase).epoch_loss /
        (dataloaders_dict.get phase).dataset.length)
      ((loopOf learner dataloaders_dict num_epochs net epoch phase).epoch_corrects /
        (dataloaders_dict.get phase).dataset.length)]

lemma beforeEpoch_succ (epoch : ℕ) :
    beforeEpoch learner dataloaders_dict num_epochs net (epoch + 1) =
      runPhase learner dataloaders_dict num_epochs epoch
        (beforePhase learner dataloaders_dict num_epochs net epoch .val) .val := by
  rw [beforeEpoch, List.range_succ, List.foldl_append]
  rfl

section Nonempty

variable {learner dataloaders_dict num_epochs net}
  (hdataset : ∀ phase, 0 < (dataloaders_dict.get phase).dataset.length)

include hdataset

lemma runPhase_of_raised_eq_false {training : Training Net} (h : training.raised = false)
    (epoch : ℕ) (phase : Phase) :
    let vars := batchLoop learner phase (dataloaders_dict.get .train).batch_size
      ((dataloaders_dict.get phase).batches epoch) training.net
    runPhase learner dataloaders_dict num_epochs epoch training phase =
      { net := vars.net
        printed := training.printed ++ vars.printed ++
          [.epoch (epoch + 1) num_epochs phase
            (vars.epoch_loss / (dataloaders_dict.get phase).dataset.length)
            (vars.epoch_corrects / (dataloaders_dict.get phase).dataset.length)]
        raised := false } := by
  unfold runPhase
  rw [if_neg (by simp [h]), if_neg (Nat.ne_of_gt (hdataset phase))]

/-- A training on data is not ended early. -/
lemma raised_beforePhase (epoch : ℕ) (phase : Phase) :
    (beforePhase learner dataloaders_dict num_epochs net epoch phase).raised = false := by
  have htrain : ∀ epoch,
      (beforeEpoch learner dataloaders_dict num_epochs net epoch).raised = false →
        (beforePhase learner dataloaders_dict num_epochs net epoch .val).raised = false := by
    intro epoch h
    unfold beforePhase
    rw [runPhase_of_raised_eq_false hdataset h]
  have hepoch : (beforeEpoch learner dataloaders_dict num_epochs net epoch).raised = false := by
    induction epoch with
    | zero => rfl
    | succ epoch ih => rw [beforeEpoch_succ, runPhase_of_raised_eq_false hdataset (htrain epoch ih)]
  cases phase with
  | train => exact hepoch
  | val => exact htrain epoch hepoch

lemma printed_runPhase (epoch : ℕ) (phase : Phase) :
    (runPhase learner dataloaders_dict num_epochs epoch
        (beforePhase learner dataloaders_dict num_epochs net epoch phase) phase).printed =
      (beforePhase learner dataloaders_dict num_epochs net epoch phase).printed ++
        linesOf learner dataloaders_dict num_epochs net epoch phase := by
  rw [runPhase_of_raised_eq_false hdataset (raised_beforePhase hdataset epoch phase)]
  simp only [linesOf, loopOf, List.append_assoc]

/-- **What has been printed before an epoch.** -/
lemma printed_beforeEpoch (epoch : ℕ) :
    (beforeEpoch learner dataloaders_dict num_epochs net epoch).printed =
      [.device learner.device, .start] ++ (List.range epoch).flatMap fun e =>
        linesOf learner dataloaders_dict num_epochs net e .train ++
          linesOf learner dataloaders_dict num_epochs net e .val := by
  induction epoch with
  | zero => rfl
  | succ epoch ih =>
      have htrain : (beforePhase learner dataloaders_dict num_epochs net epoch .val).printed =
          (beforeEpoch learner dataloaders_dict num_epochs net epoch).printed ++
            linesOf learner dataloaders_dict num_epochs net epoch .train :=
        printed_runPhase hdataset epoch .train
      rw [beforeEpoch_succ, printed_runPhase hdataset, htrain, ih, List.range_succ,
        List.flatMap_append, List.flatMap_singleton, List.append_assoc, List.append_assoc]

/-- An epoch prints one line for each phase. -/
lemma epoch_mem_printed_iff {epoch : ℕ} (h : epoch < num_epochs) (phase : Phase) {loss acc : ℚ} :
    .epoch (epoch + 1) num_epochs phase loss acc ∈
        (train_model learner dataloaders_dict num_epochs net).printed ↔
      loss = (loopOf learner dataloaders_dict num_epochs net epoch phase).epoch_loss /
          (dataloaders_dict.get phase).dataset.length ∧
        acc = (loopOf learner dataloaders_dict num_epochs net epoch phase).epoch_corrects /
          (dataloaders_dict.get phase).dataset.length := by
  have hmem : ∀ e phase', .epoch (epoch + 1) num_epochs phase loss acc ∈
      linesOf learner dataloaders_dict num_epochs net e phase' ↔ epoch = e ∧ phase = phase' ∧
        loss = (loopOf learner dataloaders_dict num_epochs net e phase').epoch_loss /
          (dataloaders_dict.get phase').dataset.length ∧
        acc = (loopOf learner dataloaders_dict num_epochs net e phase').epoch_corrects /
          (dataloaders_dict.get phase').dataset.length := by
    intro e phase'
    have hloop : .epoch (epoch + 1) num_epochs phase loss acc ∉
        (loopOf learner dataloaders_dict num_epochs net e phase').printed :=
      epoch_notMem_printed _ _ _ _ _
    rw [linesOf, List.mem_append, or_iff_right hloop]
    simp
  have hheader : .epoch (epoch + 1) num_epochs phase loss acc ∉
      [.device learner.device, Line.start] := by
    simp
  rw [train_model, ← beforeEpoch, printed_beforeEpoch hdataset, List.mem_append,
    or_iff_right hheader, List.mem_flatMap]
  simp only [List.mem_append, hmem, List.mem_range]
  constructor
  · rintro ⟨e, -, ⟨rfl, rfl, hline⟩ | ⟨rfl, rfl, hline⟩⟩
    · exact hline
    · exact hline
  · intro hline
    refine ⟨epoch, h, ?_⟩
    cases phase with
    | train => exact Or.inl ⟨rfl, rfl, hline⟩
    | val => exact Or.inr ⟨rfl, rfl, hline⟩

end Nonempty

/-! ## The printed loss -/

lemma batched_lossesOf (epoch : ℕ) (phase : Phase) :
    Batched (dataloaders_dict.get .train).batch_size
      (lossesOf learner dataloaders_dict num_epochs net epoch phase) := by
  have hsize : (dataloaders_dict.get .train).batch_size =
      (dataloaders_dict.get phase).batch_size := by
    cases phase with
    | train => rfl
    | val => exact dataloaders_dict.batch_size_eq.symm
  rw [hsize]
  exact ((dataloaders_dict.get phase).batched epoch).of_length_eq (map_length_passLosses ..)

/-- A pass computes one loss for each sample of the dataset. -/
lemma length_lossesOf (epoch : ℕ) (phase : Phase) :
    (lossesOf learner dataloaders_dict num_epochs net epoch phase).flatten.length =
      (dataloaders_dict.get phase).dataset.length := by
  rw [← ((dataloaders_dict.get phase).yields_dataset epoch).length_eq, List.length_flatten,
    List.length_flatten, lossesOf, map_length_passLosses]

/-- **When the loss of an epoch is the true mean.**  Each phase of each epoch prints one line, and
the loss that is formatted in it is the mean of the losses of all samples exactly when the batch
size divides the size of the dataset or the losses in the last batch sum to zero. -/
theorem epoch_loss_iff (learner : Learner Net Sample) (dataloaders_dict : Dataloaders Sample)
    (num_epochs : ℕ) (net : Net) (epoch : ℕ) (h : epoch < num_epochs) (phase : Phase)
    (hdataset : ∀ phase, 0 < (dataloaders_dict.get phase).dataset.length) :
    ∃ epoch_loss epoch_acc,
      (∀ loss acc, .epoch (epoch + 1) num_epochs phase loss acc ∈
          (train_model learner dataloaders_dict num_epochs net).printed ↔
        loss = epoch_loss ∧ acc = epoch_acc) ∧
      (epoch_loss = (lossesOf learner dataloaders_dict num_epochs net epoch phase).flatten.sum /
          (dataloaders_dict.get phase).dataset.length ↔
        (dataloaders_dict.get .train).batch_size ∣ (dataloaders_dict.get phase).dataset.length ∨
          lastSum (lossesOf learner dataloaders_dict num_epochs net epoch phase) = 0) := by
  refine ⟨_, _, fun loss acc => epoch_mem_printed_iff hdataset h phase, ?_⟩
  have hne : ((dataloaders_dict.get phase).dataset.length : ℚ) ≠ 0 :=
    Nat.cast_ne_zero.mpr (Nat.ne_of_gt (hdataset phase))
  rw [div_left_inj' hne, loopOf, epoch_loss_batchLoop, ← lossesOf,
    sum_mean_mul_eq_iff (dataloaders_dict.get .train).batch_size_pos (batched_lossesOf ..),
    length_lossesOf]

/-! ### Three samples in batches of two -/

/-- Three samples, in order. -/
def threeSamples : Iterator ℚ where
  dataset := [0, 1, 2]
  batch_size := 2
  batches _ := [[0, 1], [2]]
  batch_size_pos := by decide
  yields_dataset _ := .refl _
  batched _ := .cons rfl (.last (by decide) (by decide))

def threeSampleLoaders : Dataloaders ℚ := ⟨threeSamples, threeSamples, rfl⟩

/-- A sample is its own loss, and nothing is learnt. -/
def fixedLosses : Learner Unit ℚ where
  device := .cpu
  sampleLoss _ _ sample := sample
  correct _ _ _ := true
  zero_grad _ := ()
  zero_grad_zero_grad _ := rfl
  optimize _ _ := ()

theorem epoch_loss_iff_threeSamples :
    ∃ epoch_loss epoch_acc,
      (∀ loss acc, .epoch 1 1 .val loss acc ∈
          (train_model fixedLosses threeSampleLoaders 1 ()).printed ↔
        loss = epoch_loss ∧ acc = epoch_acc) ∧
      (epoch_loss = (lossesOf fixedLosses threeSampleLoaders 1 () 0 .val).flatten.sum / (3 : ℕ) ↔
        2 ∣ 3 ∨ lastSum (lossesOf fixedLosses threeSampleLoaders 1 () 0 .val) = 0) :=
  epoch_loss_iff fixedLosses threeSampleLoaders 1 () 0 (by decide) .val
    fun phase => by cases phase <;> decide

/-- The losses 0, 1 and 2 have the mean 1, and 5/3 is printed. -/
theorem short_batch_overweighted :
    .epoch 1 1 .val (5 / 3) 1 ∈ (train_model fixedLosses threeSampleLoaders 1 ()).printed ∧
      (lossesOf fixedLosses threeSampleLoaders 1 () 0 .val).flatten.sum /
        threeSamples.dataset.length = 1 := by
  constructor <;> decide +kernel

end Procon.TrainModel
