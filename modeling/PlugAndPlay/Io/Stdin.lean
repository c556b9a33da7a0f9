import Mathlib.Data.List.Forall2
import PlugAndPlay.Library.LineReader
import PlugAndPlay.Library.Transitions
import PlugAndPlay.Red.IdaYVueltaMensajes

/-!
# Standard input of an IO module

The case `IO_STDIN` of `main` in `io/src/main.c`. A request takes what one `fgets` of 4096 bytes returns; the
rest of a longer line is what the next request finds. A negative count makes `calloc` fail, and then nothing is
answered.
-/

open PlugAndPlay.Library PlugAndPlay.Red

namespace PlugAndPlay.Io

open LineReader (lines fgets)

/-- `'\n'`. -/
def salto : UInt8 := 10

/-! ## The source -/

/-- An `IO_STDIN` as the scheduler sends it. -/
structure PedidoStdin where
  pid : Int32
  cantidad : Int32
deriving DecidableEq

/-- `calloc(cantidad, sizeof(char))`: a negative count is a size that no object has. -/
def calloc (cantidad : Int32) : Option (List UInt8) :=
  if cantidad < 0 then none else some (List.replicate cantidad.toInt.toNat 0)

/-- The string that `fgets` left, as far as `strlen` counts it, without a newline at its end. -/
def sacarSalto (linea : List UInt8) : List UInt8 :=
  let texto := linea.takeWhile (· ≠ 0)
  if texto.getLast? = some salto then texto.dropLast else texto

/-- `memcpy` of the shorter of both lengths. -/
def copiar (buffer linea : List UInt8) : List UInt8 := linea.take buffer.length ++ buffer.drop linea.length

/-- The module, what is left on its standard input, and what passed on its socket. -/
structure ModuloIo where
  entrada : List UInt8
  viva : Bool
  pedidos : List PedidoStdin
  enviadas : List (List UInt8)
deriving DecidableEq

/-- `enviar_datos_stdin`: the module dies of a frame that an `int` cannot count. -/
def ModuloIo.responder (m : ModuloIo) (pid : Int32) (datos : List UInt8) : ModuloIo :=
  match enviarPaquete (enviarDatosStdin pid datos) with
  | none => { m with viva := false }
  | some trama => { m with enviadas := m.enviadas ++ [trama] }

/-- The case `IO_STDIN`; at the end of the input the buffer stays as `calloc` left it. -/
def ModuloIo.atenderStdin (m : ModuloIo) (pedido : PedidoStdin) : ModuloIo :=
  match calloc pedido.cantidad with
  | none => m
  | some buffer =>
    match fgets salto 4096 m.entrada with
    | none => m.responder pedido.pid buffer
    | some (linea, resto) => { m with entrada := resto }.responder pedido.pid (copiar buffer (sacarSalto linea))

/-- A turn of the loop of `main`. -/
def ModuloIo.paso (m : ModuloIo) (pedido : PedidoStdin) : Option ModuloIo :=
  if m.viva then some { m.atenderStdin pedido with pedidos := m.pedidos ++ [pedido] } else none

/-- The module before the first request. -/
def ModuloIo.inicial (texto : List UInt8) : ModuloIo := ⟨texto, true, [], []⟩

/-! ## A line for each request -/

/-- The first `cantidad` characters of a line, and zero bytes behind a shorter one. -/
def recortada (cantidad : ℕ) (linea : List UInt8) : List UInt8 :=
  linea.take cantidad ++ List.replicate (cantidad - linea.length) 0

/-- The reply to the `k`-th request: `IO_FINALIZADA`, with the `k`-th line unless the count is negative. -/
def Contesta (texto : List UInt8) (pedido : PedidoStdin × ℕ) (trama : List UInt8) : Prop :=
  deUint32 OpCode.ioFinalizada.valor <+: trama ∧
    (0 ≤ pedido.1.cantidad →
      trama = serializarPaquete (enviarDatosStdin pedido.1.pid
        (recortada pedido.1.cantidad.toInt.toNat ((lines salto texto)[pedido.2]?.getD []))))

instance (texto : List UInt8) (pedido : PedidoStdin × ℕ) (trama : List UInt8) :
    Decidable (Contesta texto pedido trama) :=
  inferInstanceAs (Decidable (_ ∧ (_ → _)))

/-- Exactly one reply to each request, with the line that is its own. -/
def ModuloIo.Contestado (texto : List UInt8) (m : ModuloIo) : Prop :=
  List.Forall₂ (Contesta texto) m.pedidos.zipIdx m.enviadas

instance (texto : List UInt8) (m : ModuloIo) : Decidable (m.Contestado texto) :=
  inferInstanceAs (Decidable (List.Forall₂ _ _ _))

/-- The buffer holds the next line, with its newline unless it is the last one. -/
def LineaCabe (entrada : List UInt8) : Prop :=
  (∀ linea ∈ (lines salto entrada).head?, linea.length ≤ 4094) ∨ salto ∉ entrada ∧ entrada.length ≤ 4095

/-- Behind a zero byte only zero bytes are asked for. -/
def SinNulDelante (cantidad : ℕ) (linea : List UInt8) : Prop :=
  ∀ b ∈ (linea.dropWhile (· ≠ 0)).take (cantidad - (linea.takeWhile (· ≠ 0)).length), b = 0

/-- A request of a count that is not negative and whose reply fits in a frame, for a line that the buffer
holds. -/
structure ModuloIo.Admite (m : ModuloIo) (pedido : PedidoStdin) : Prop where
  noNegativa : 0 ≤ pedido.cantidad
  trama : CabeEnTrama (4 + pedido.cantidad.toInt.toNat)
  linea : LineaCabe m.entrada
  sinNul : ∀ linea ∈ (lines salto m.entrada).head?, SinNulDelante pedido.cantidad.toInt.toNat linea

/-- Runs of admitted requests on a text. -/
abbrev IoAlcanzable (texto : List UInt8) (m : ModuloIo) : Prop :=
  Reachable ModuloIo.paso (· = ModuloIo.inicial texto) ModuloIo.Admite m

/-! ## One line -/

section

variable {linea : List UInt8} {cantidad : ℕ}

theorem copiar_ceros (cantidad : ℕ) (linea : List UInt8) :
    copiar (List.replicate cantidad 0) linea = recortada cantidad linea := by
  rw [copiar, List.length_replicate, List.drop_replicate]
  rfl

theorem length_recortada (cantidad : ℕ) (linea : List UInt8) : (recortada cantidad linea).length = cantidad := by
  rw [recortada, List.length_append, List.length_take, List.length_replicate]
  omega

/-- A line that ends at its first zero byte fills the buffer alike. -/
theorem recortada_takeWhile (h : SinNulDelante cantidad linea) :
    recortada cantidad (linea.takeWhile (· ≠ 0)) = recortada cantidad linea := by
  have hpartes : linea.takeWhile (· ≠ 0) ++ linea.dropWhile (· ≠ 0) = linea := List.takeWhile_append_dropWhile
  unfold SinNulDelante at h
  generalize linea.takeWhile (· ≠ 0) = delante at h hpartes ⊢
  generalize linea.dropWhile (· ≠ 0) = detras at h hpartes
  have hceros : detras.take (cantidad - delante.length) =
      List.replicate (min (cantidad - delante.length) detras.length) 0 := by
    rw [← List.length_take]
    exact List.eq_replicate_length.mpr h
  calc recortada cantidad delante
      = delante.take cantidad ++ List.replicate (cantidad - delante.length) 0 := rfl
    _ = delante.take cantidad ++ (List.replicate (min (cantidad - delante.length) detras.length) 0 ++
          List.replicate (cantidad - (delante.length + detras.length)) 0) := by
        rw [← List.replicate_add]
        congr 2
        omega
    _ = recortada cantidad (delante ++ detras) := by
        rw [recortada, List.take_append, hceros, List.length_append, List.append_assoc]
    _ = recortada cantidad linea := by rw [hpartes]

theorem sacarSalto_eq (h : salto ∉ linea) : sacarSalto linea = linea.takeWhile (· ≠ 0) := by
  unfold sacarSalto
  rw [if_neg]
  intro hultimo
  have hmem := List.mem_of_getLast? hultimo
  exact h ((List.takeWhile_sublist _).subset hmem)

theorem sacarSalto_salto (h : salto ∉ linea) :
    sacarSalto (linea ++ [salto]) = linea.takeWhile (· ≠ 0) := by
  by_cases hnul : (0 : UInt8) ∈ linea
  · have hcorta : (linea ++ [salto]).takeWhile (· ≠ 0) = linea.takeWhile (· ≠ 0) :=
      LineReader.takeWhile_append_of_mem hnul rfl _
    rw [← sacarSalto_eq h, sacarSalto, sacarSalto, hcorta]
  · have hlinea : linea.takeWhile (· ≠ 0) = linea := by
      apply List.takeWhile_eq_self_iff.mpr
      intro b hb
      have hne : b ≠ 0 := fun heq ↦ hnul (heq ▸ hb)
      simpa using hne
    have htodo : (linea ++ [salto]).takeWhile (· ≠ 0) = linea ++ [salto] := by
      rw [List.takeWhile_append, if_pos (congrArg _ hlinea)]
      rfl
    rw [sacarSalto, htodo, hlinea]
    simp

end

/-! ## One request -/

section

variable {texto : List UInt8} {m m' : ModuloIo} {pedido : PedidoStdin}

theorem ModuloIo.responder_of_cabe (m : ModuloIo) (pid : Int32) (datos : List UInt8)
    (h : CabeEnTrama (4 + datos.length)) :
    m.responder pid datos =
      { m with enviadas := m.enviadas ++ [serializarPaquete (enviarDatosStdin pid datos)] } := by
  have hlargo : (enviarDatosStdin pid datos).stream.length = 4 + datos.length := by
    simp [enviarDatosStdin, Paquete.stream]
  have henvia : enviarPaquete (enviarDatosStdin pid datos) = some (serializarPaquete (enviarDatosStdin pid datos)) :=
    if_pos (hlargo ▸ h)
  simp only [ModuloIo.responder, henvia]

/-- An admitted request takes the next line and answers with it. -/
theorem ModuloIo.atenderStdin_of_admite (h : m.Admite pedido) :
    ∃ resto, lines salto resto = (lines salto m.entrada).tail ∧
      m.atenderStdin pedido =
        { m with
          entrada := resto
          enviadas := m.enviadas ++ [serializarPaquete (enviarDatosStdin pedido.pid
            (recortada pedido.cantidad.toInt.toNat ((lines salto m.entrada).head?.getD [])))] } := by
  obtain ⟨hnoNegativa, htrama, hcabe, hsinNul⟩ := h
  have hcalloc : calloc pedido.cantidad = some (List.replicate pedido.cantidad.toInt.toNat 0) :=
    if_neg (Int32.not_lt.mpr hnoNegativa)
  have hresponde (m : ModuloIo) (linea : List UInt8) :=
    m.responder_of_cabe pedido.pid (recortada pedido.cantidad.toInt.toNat linea) (by rwa [length_recortada])
  unfold ModuloIo.atenderStdin
  simp only [hcalloc]
  cases hlineas : lines salto m.entrada with
  | nil =>
    have hentrada : m.entrada = [] := LineReader.lines_eq_nil_iff.mp hlineas
    have hfgets : fgets salto 4096 m.entrada = none := if_pos hentrada
    have hceros : List.replicate pedido.cantidad.toInt.toNat 0 = recortada pedido.cantidad.toInt.toNat [] := by
      simp [recortada]
    refine ⟨m.entrada, hlineas, ?_⟩
    simp only [hfgets, hceros, hresponde]
    rfl
  | cons linea otras =>
    rw [hlineas] at hsinNul
    have hfits : linea.length + 1 < 4096 ∨ salto ∉ m.entrada ∧ m.entrada.length < 4096 := by
      refine hcabe.imp (fun h ↦ ?_) (And.imp_right Nat.lt_succ_of_le)
      rw [hlineas] at h
      exact Nat.lt_succ_of_le (Nat.succ_le_succ (h linea rfl))
    obtain ⟨leida, resto, hfgets, hresto, hlinea, hleida⟩ := LineReader.fgets_whole hlineas hfits
    have hsaca : sacarSalto leida = linea.takeWhile (· ≠ 0) := by
      rcases hleida with rfl | rfl
      · exact sacarSalto_salto hlinea
      · exact sacarSalto_eq hlinea
    refine ⟨resto, hresto, ?_⟩
    simp only [hfgets, hsaca, copiar_ceros, recortada_takeWhile (hsinNul linea rfl), hresponde]
    rfl

/-- The replies are as they should be, and the input left begins with the line of the next request. -/
structure ModuloIo.Alineado (texto : List UInt8) (m : ModuloIo) : Prop where
  contestado : m.Contestado texto
  entrada : lines salto m.entrada = (lines salto texto).drop m.pedidos.length

theorem ModuloIo.Alineado.paso (h : m.Alineado texto) (hadmite : m.Admite pedido)
    (hpaso : m.paso pedido = some m') : m'.Alineado texto := by
  obtain ⟨-, hm'⟩ := Option.ite_none_right_eq_some.mp hpaso
  obtain rfl := Option.some.inj hm'
  obtain ⟨resto, hresto, hatiende⟩ := ModuloIo.atenderStdin_of_admite hadmite
  rw [hatiende]
  constructor
  · have hsuya : (lines salto m.entrada).head? = (lines salto texto)[m.pedidos.length]? := by
      rw [h.entrada, List.head?_drop]
    have hzip : (m.pedidos ++ [pedido]).zipIdx = m.pedidos.zipIdx ++ [(pedido, m.pedidos.length)] := by
      rw [List.zipIdx_append, Nat.zero_add, List.zipIdx_singleton]
    simp only [ModuloIo.Contestado, hzip, hsuya]
    apply List.rel_append h.contestado
    refine .cons ⟨?_, fun _ ↦ rfl⟩ .nil
    exact List.prefix_append _ _
  · simp only [hresto, h.entrada, List.length_append, List.length_singleton, List.tail_drop]

end

/-! ## Runs -/

/-- In every run of admitted requests each one is answered once, with the line that is its own. -/
theorem contestado_of_alcanzable (texto : List UInt8) (m : ModuloIo) (h : IoAlcanzable texto m) :
    m.Contestado texto := by
  have hinvariante : m.Alineado texto := by
    apply h.invariant (P := ModuloIo.Alineado texto)
    · rintro m rfl
      exact ⟨.nil, rfl⟩
    · exact fun _ _ _ hm hadmite hpaso ↦ hm.paso hadmite hpaso
  exact hinvariante.contestado

instance (entrada : List UInt8) : Decidable (LineaCabe entrada) := inferInstanceAs (Decidable (_ ∨ _))

instance (cantidad : ℕ) (linea : List UInt8) : Decidable (SinNulDelante cantidad linea) :=
  inferInstanceAs (Decidable (∀ _ ∈ _, _))

instance (m : ModuloIo) (pedido : PedidoStdin) : Decidable (m.Admite pedido) :=
  decidable_of_iff (0 ≤ pedido.cantidad ∧ CabeEnTrama (4 + pedido.cantidad.toInt.toNat) ∧ LineaCabe m.entrada ∧
      ∀ linea ∈ (lines salto m.entrada).head?, SinNulDelante pedido.cantidad.toInt.toNat linea)
    ⟨fun ⟨hcantidad, htrama, hlinea, hnul⟩ ↦ ⟨hcantidad, htrama, hlinea, hnul⟩,
      fun ⟨hcantidad, htrama, hlinea, hnul⟩ ↦ ⟨hcantidad, htrama, hlinea, hnul⟩⟩

theorem contestado_tresPedidos : ∃ m, IoAlcanzable "hola\nb".toUTF8.toList m ∧ m.pedidos.length = 3 ∧
    m.Contestado "hola\nb".toUTF8.toList := by
  have hinicio : IoAlcanzable "hola\nb".toUTF8.toList (.inicial "hola\nb".toUTF8.toList) := .start rfl
  obtain ⟨m, hm, htres⟩ := hinicio.exists_of_runAllowed [⟨1, 2⟩, ⟨2, 3⟩, ⟨1, 1⟩]
    (fun m ↦ m.pedidos.length = 3) (by decide +kernel)
  exact ⟨m, hm, htres, contestado_of_alcanzable _ m hm⟩

section

variable {larga : List UInt8} (hlarga : salto ∉ larga)
include hlarga

/-- The first request takes all of a line of 4095 characters but its newline. -/
theorem paso_lineaLarga (hlargo : larga.length = 4095) (resto : List UInt8) : ∃ trama,
    (ModuloIo.inicial (larga ++ salto :: resto)).paso ⟨1, 4⟩ =
      some ⟨salto :: resto, true, [⟨1, 4⟩], [trama]⟩ := by
  have hne : larga ++ salto :: resto ≠ [] := List.append_ne_nil_of_right_ne_nil _ (List.cons_ne_nil _ _)
  have hfgets : fgets salto 4096 (larga ++ salto :: resto) = some (larga, salto :: resto) := by
    rw [fgets, if_neg hne, LineReader.readUpTo_part hlarga hlargo.ge, ← hlargo, List.take_length, List.drop_length]
    rfl
  have hcalloc : calloc 4 = some (List.replicate 4 0) := rfl
  have hresponde (m : ModuloIo) (linea : List UInt8) :=
    m.responder_of_cabe 1 (recortada 4 linea) (by rw [length_recortada]; decide)
  refine ⟨serializarPaquete (enviarDatosStdin 1 (recortada 4 (sacarSalto larga))), ?_⟩
  simp only [ModuloIo.paso, ModuloIo.inicial, ModuloIo.atenderStdin, hcalloc, hfgets, copiar_ceros, hresponde]
  rfl

theorem not_contestado_vacia (trama entrada : List UInt8) (viva : Bool) :
    ¬ ModuloIo.Contestado (larga ++ [salto, 98, salto]) ⟨entrada, viva, [⟨1, 4⟩, ⟨2, 4⟩],
      [trama, serializarPaquete (enviarDatosStdin 2 [0, 0, 0, 0])]⟩ := by
  have hlineas : lines salto (larga ++ [salto, 98, salto]) = [larga, [98]] :=
    LineReader.lines_line hlarga [98, salto]
  rintro (_ | ⟨-, _ | ⟨hsegunda, -⟩⟩)
  have htrama := hsegunda.2 (by decide)
  rw [hlineas] at htrama
  have hdistinta : serializarPaquete (enviarDatosStdin 2 [0, 0, 0, 0]) ≠
      serializarPaquete (enviarDatosStdin 2 (recortada 4 [98])) := by decide
  exact hdistinta htrama

end

/-- A line of 4095 characters and another one. -/
def textoLargo : List UInt8 := List.replicate 4095 97 ++ [salto, 98, salto]

/-- The second request gets what was left of the first line; a negative count gets no reply. -/
theorem stdin_noContestado :
    (∃ m, Reachable ModuloIo.paso (· = ModuloIo.inicial textoLargo) (fun _ _ ↦ True) m ∧
      m.pedidos = [⟨1, 4⟩, ⟨2, 4⟩] ∧ ¬ m.Contestado textoLargo) ∧
    ∃ m, Reachable ModuloIo.paso (· = ModuloIo.inicial [98, salto]) (fun _ _ ↦ True) m ∧
      m.pedidos = [⟨1, -1⟩] ∧ m.viva ∧ m.enviadas = [] ∧ ¬ m.Contestado [98, salto] := by
  constructor
  · have hlarga : salto ∉ List.replicate 4095 (97 : UInt8) := fun h ↦ by cases List.eq_of_mem_replicate h
    have hinicio : Reachable ModuloIo.paso (· = ModuloIo.inicial textoLargo) (fun _ _ ↦ True)
        (.inicial textoLargo) := .start rfl
    obtain ⟨trama, hprimero⟩ := paso_lineaLarga hlarga List.length_replicate [98, salto]
    have hsegundo : ModuloIo.paso ⟨[salto, 98, salto], true, [⟨1, 4⟩], [trama]⟩ ⟨2, 4⟩ =
        some ⟨[98, salto], true, [⟨1, 4⟩, ⟨2, 4⟩], [trama, serializarPaquete (enviarDatosStdin 2 [0, 0, 0, 0])]⟩ :=
      rfl
    exact ⟨_, (hinicio.next trivial hprimero).next trivial hsegundo, rfl, not_contestado_vacia hlarga _ _ _⟩
  · have hinicio : Reachable ModuloIo.paso (· = ModuloIo.inicial [98, salto]) (fun _ _ ↦ True)
        (.inicial [98, salto]) := .start rfl
    exact hinicio.exists_of_runAllowed [⟨1, -1⟩] _ (by decide +kernel)

end PlugAndPlay.Io
