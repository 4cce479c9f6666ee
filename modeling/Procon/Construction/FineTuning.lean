import Procon.Construction.TrainModel
import Procon.Framework.PointwiseLoop

/-!
# Fine-tuning

`bert.py` trains two parts of `BertForLivedoor` only: the last layer of the encoder and the
classifier.  It clears `requires_grad` of all parameters, sets it for those of the two parts, and
makes an optimizer of the two as parameter groups, each with a learning rate of its own.

Torch keeps a gradient with each parameter, and `backward` adds to it.  `zero_grad` clears the
gradients of the optimizer's parameters at the start of each iteration, of training and of
validation, and `step` reads them.  Here the state of the network is all that torch keeps with its
parameters.  The derivative of the loss and one update of a parameter by `Adam` are parameters of
the model.
-/

namespace Procon.TrainModel

open PointwiseLoop

variable {P V σ Sample : Type*}

/-! ## The network and its parameters -/

/-- The parameters of `BertForLivedoor`, by the parts they belong to. -/
structure BertForLivedoor (P : Type*) where
  /-- `net.parameters()`. -/
  parameters : List P
  /-- `net.bert.encoder.layer`, each with its `parameters()`. -/
  layer : List (List P)
  /-- `net.cls.parameters()`. -/
  cls : List P
  layer_ne_nil : layer ≠ []
  mem_parameters : ∀ p, p ∈ parameters
  parameters_nodup : parameters.Nodup
  layer_nodup : ∀ ps ∈ layer, ps.Nodup
  cls_nodup : cls.Nodup
  /-- `Adam` refuses a parameter that is in two groups. -/
  layer_disjoint_cls : ∀ ps ∈ layer, ps.Disjoint cls

/-- `net.bert.encoder.layer[-1].parameters()`. -/
def BertForLivedoor.lastLayer (net : BertForLivedoor P) : List P :=
  net.layer.getLast net.layer_ne_nil

/-- What torch keeps with a parameter. -/
structure Parameter (V σ : Type*) where
  data : V
  grad : Option V
  requires_grad : Bool
  /-- `optimizer.state[param]`. -/
  state : σ

/-- `for param in params: param.requires_grad = value`. -/
def setRequiresGrad [DecidableEq P] (value : Bool) :
    List P → (P → Parameter V σ) → P → Parameter V σ :=
  forEach fun _ param => { param with requires_grad := value }

/-- The three loops before the training. -/
def BertForLivedoor.freeze [DecidableEq P] (net : BertForLivedoor P) (θ : P → Parameter V σ) :
    P → Parameter V σ :=
  setRequiresGrad true net.cls
    (setRequiresGrad true net.lastLayer (setRequiresGrad false net.parameters θ))

/-- `optimizer.param_groups`, each with its `lr`. -/
def BertForLivedoor.param_groups (net : BertForLivedoor P) : List (List P × ℚ) :=
  [(net.lastLayer, 5e-5), (net.cls, 1e-4)]

/-! ## What torch does in an iteration -/

/-- What the network computes, and how `Adam` updates a parameter. -/
structure Torch (P V σ Sample : Type*) where
  device : Device
  sampleLoss : Phase → (P → V) → Sample → ℚ
  correct : Phase → (P → V) → Sample → Bool
  /-- The derivative of the loss of a batch. -/
  gradient : (P → V) → List Sample → P → V
  /-- The next `data` and `state` of a parameter, from its `lr`, `state`, `data` and `grad`. -/
  adam : ℚ → σ → V → V → V × σ

variable [DecidableEq P] [AddMonoid V]

/-- `optimizer.zero_grad()`. -/
def zero_grad (groups : List (List P × ℚ)) (θ : P → Parameter V σ) : P → Parameter V σ :=
  groups.foldl (fun θ group =>
    forEach (fun _ param => { param with grad := param.grad.map fun _ => 0 }) group.1 θ) θ

lemma zero_grad_eq_forEach {groups : List (List P × ℚ)} {θ : P → Parameter V σ} :
    zero_grad groups θ =
      forEach (fun _ param => { param with grad := param.grad.map fun _ => 0 })
        (groups.flatMap Prod.fst) θ := by
  induction groups generalizing θ with
  | nil => rfl
  | cons group groups ih =>
      rw [List.flatMap_cons, forEach_append, ← ih]
      rfl

/-- Cleared gradients stay as they are. -/
lemma zero_grad_zero_grad {groups : List (List P × ℚ)} {θ : P → Parameter V σ} :
    zero_grad groups (zero_grad groups θ) = zero_grad groups θ := by
  rw [zero_grad_eq_forEach, zero_grad_eq_forEach]
  refine forEach_forEach_of_idempotent fun _ param => ?_
  simp only [Option.map_map]
  rfl

/-- `loss.backward()`. -/
def Torch.backward (torch : Torch P V σ Sample) (batch : List Sample) (θ : P → Parameter V σ)
    (p : P) : Parameter V σ :=
  if (θ p).requires_grad then
    { θ p with
      grad := some ((θ p).grad.getD 0 + torch.gradient (fun q => (θ q).data) batch p) }
  else θ p

/-- The body of the loop of `optimizer.step()`. -/
def Torch.update (torch : Torch P V σ Sample) (lr : ℚ) (param : Parameter V σ) : Parameter V σ :=
  match param.grad with
  | none => param
  | some grad =>
      let next := torch.adam lr param.state param.data grad
      { param with data := next.1, state := next.2 }

/-- `optimizer.step()`. -/
def Torch.step (torch : Torch P V σ Sample) (groups : List (List P × ℚ))
    (θ : P → Parameter V σ) : P → Parameter V σ :=
  groups.foldl (fun θ group => forEach (fun _ => torch.update group.2) group.1 θ) θ

/-! ## The training -/

/-- The network and the optimizer as the loop sees them. -/
def Torch.network (torch : Torch P V σ Sample) (groups : List (List P × ℚ)) :
    Learner (P → Parameter V σ) Sample where
  device := torch.device
  sampleLoss phase θ := torch.sampleLoss phase fun p => (θ p).data
  correct phase θ := torch.correct phase fun p => (θ p).data
  zero_grad := TrainModel.zero_grad groups
  zero_grad_zero_grad _ := TrainModel.zero_grad_zero_grad
  optimize θ batch := torch.step groups (torch.backward batch θ)

/-- `train_model` on the network of `bert.py`. -/
def Torch.train_model (torch : Torch P V σ Sample) (net : BertForLivedoor P)
    (dataloaders_dict : Dataloaders Sample) (num_epochs : ℕ) (θ : P → Parameter V σ) :
    Training (P → Parameter V σ) :=
  TrainModel.train_model (torch.network net.param_groups) dataloaders_dict num_epochs (net.freeze θ)

end Procon.TrainModel
