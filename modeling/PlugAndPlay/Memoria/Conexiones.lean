import PlugAndPlay.Library.ByteMemory
import PlugAndPlay.Library.ListModify
import PlugAndPlay.Memoria.Tipos

/-!
# The table of Memory Sticks

`memory_conexiones.c` and the buffer of each stick. A stick's base is the 32-bit sum of the sizes
registered before it, an address belongs to the first stick whose range contains it, and the
stick's own process bounds every request by its size. The second half shows that open sticks serve
one flat memory: the addresses they serve form an interval `[0, alcance)`, even when the sum of the
sizes wraps, and inside a stick's range consecutive addresses are consecutive bytes of its buffer.
-/

open PlugAndPlay.Library

namespace PlugAndPlay.Memoria

/-! ## The code -/

/-- An entry of `active.sticks`, with the buffer of the stick process behind its outbound
connection (`-1` while there is none). -/
structure MemoryStick where
  socket : ℤ
  tamanio : UInt32
  ip : String
  puerto : String
  baseFisica : UInt32
  outboundSocket : ℤ
  memoria : ℕ → UInt8

def maxMemorySticks : ℕ := 1000

/-- `conexiones_tamanio_total_ram`, a 32-bit sum. -/
def conexionesTamanioTotalRam (tabla : List MemoryStick) : UInt32 :=
  tabla.foldl (fun total stick ↦ total + stick.tamanio) 0

/-- `conexiones_agregar_stick`: the new entry's index and base, and the table with it; nothing
when the table is full. -/
def conexionesAgregarStick (tabla : List MemoryStick) (socket : ℤ) (tamanio : UInt32)
    (ip puerto : String) (memoria : ℕ → UInt8) : Option (ℕ × UInt32 × List MemoryStick) :=
  if maxMemorySticks ≤ tabla.length then none
  else
    let baseFisica := tabla.foldl (fun base stick ↦ base + stick.tamanio) 0
    some (tabla.length, baseFisica,
      tabla ++ [⟨socket, tamanio, ip, puerto, baseFisica, -1, memoria⟩])

/-- `conexiones_stick_set_outbound_socket`. -/
def conexionesStickSetOutboundSocket (tabla : List MemoryStick) (idx : ℕ) (sock : ℤ) :
    List MemoryStick :=
  tabla.modify idx fun stick ↦ { stick with outboundSocket := sock }

/-- The test of `conexiones_buscar_stick_por_dir`. -/
def MemoryStick.Sirve (stick : MemoryStick) (dirFisica : UInt32) : Prop :=
  0 ≤ stick.outboundSocket ∧ stick.baseFisica ≤ dirFisica ∧
    dirFisica < stick.baseFisica + stick.tamanio

instance (stick : MemoryStick) (dirFisica : UInt32) : Decidable (stick.Sirve dirFisica) :=
  inferInstanceAs (Decidable (_ ∧ _))

/-- `conexiones_buscar_stick_por_dir`: the first stick that serves the address. -/
def conexionesBuscarStickPorDir (tabla : List MemoryStick) (dirFisica : UInt32) : Option ℕ :=
  tabla.findIdx? fun stick ↦ stick.Sirve dirFisica

/-- `manejar_lectura` of the stick process: outside its buffer it sends no bytes. -/
def MemoryStick.manejarLectura (stick : MemoryStick) (dir tam : UInt32) : Option (List UInt8) :=
  if dir + tam ≤ stick.tamanio then some (ByteMemory.slice stick.memoria dir.toNat tam.toNat)
  else none

/-- `manejar_escritura` of the stick process: outside its buffer it writes nothing. -/
def MemoryStick.manejarEscritura (stick : MemoryStick) (dir tam : UInt32) (datos : List UInt8) :
    MemoryStick :=
  if dir + tam ≤ stick.tamanio then
    { stick with memoria := ByteMemory.overlay stick.memoria dir.toNat (datos.take tam.toNat) }
  else stick

/-! ## The layout of registered sticks -/

/-- Every base is the running 32-bit sum of the sizes before it, from `base` on. -/
def BasesAcumuladas : UInt32 → List MemoryStick → Prop
  | _, [] => True
  | base, stick :: resto => stick.baseFisica = base ∧ BasesAcumuladas (base + stick.tamanio) resto

/-- All sticks of the table have their outbound connection open. -/
def Alcanzables (tabla : List MemoryStick) : Prop := ∀ stick ∈ tabla, 0 ≤ stick.outboundSocket

/-- The stick and the address, as the numbers they stand for. -/
def MemoryStick.Cubre (stick : MemoryStick) (address : ℕ) : Prop :=
  0 ≤ stick.outboundSocket ∧ stick.baseFisica.toNat ≤ address ∧
    address < (stick.baseFisica + stick.tamanio).toNat

instance (stick : MemoryStick) (address : ℕ) : Decidable (stick.Cubre address) :=
  inferInstanceAs (Decidable (_ ∧ _))

theorem MemoryStick.sirve_iff_cubre {stick : MemoryStick} {dirFisica : UInt32} :
    stick.Sirve dirFisica ↔ stick.Cubre dirFisica.toNat := by
  simp only [Sirve, Cubre, UInt32.le_iff_toNat_le, UInt32.lt_iff_toNat_lt]

/-- The stick that serves an address, by the number of the address. -/
def ubicar (tabla : List MemoryStick) (address : ℕ) : Option ℕ :=
  tabla.findIdx? fun stick ↦ stick.Cubre address

theorem conexionesBuscarStickPorDir_eq (tabla : List MemoryStick) (dirFisica : UInt32) :
    conexionesBuscarStickPorDir tabla dirFisica = ubicar tabla dirFisica.toNat := by
  simp only [conexionesBuscarStickPorDir, ubicar, MemoryStick.sirve_iff_cubre]

/-- The sum of the sizes, from `base` on. -/
def sumaTamanios (base : UInt32) (tabla : List MemoryStick) : UInt32 :=
  tabla.foldl (fun total stick ↦ total + stick.tamanio) base

theorem conexionesTamanioTotalRam_eq (tabla : List MemoryStick) :
    conexionesTamanioTotalRam tabla = sumaTamanios 0 tabla := rfl

theorem basesAcumuladas_append {base : UInt32} {tabla : List MemoryStick} {stick : MemoryStick} :
    BasesAcumuladas base (tabla ++ [stick]) ↔
      BasesAcumuladas base tabla ∧ stick.baseFisica = sumaTamanios base tabla := by
  induction tabla generalizing base with
  | nil => simp [BasesAcumuladas, sumaTamanios]
  | cons primero resto ih =>
    simp only [List.cons_append, BasesAcumuladas, ih, and_assoc, sumaTamanios, List.foldl_cons]

/-- The sum of the stick sizes, without wrapping. -/
def sumaSticks (tabla : List MemoryStick) : ℕ := (tabla.map fun stick ↦ stick.tamanio.toNat).sum

/-- Without wrapping, the 32-bit sum is the sum. -/
theorem toNat_sumaTamanios {base : UInt32} {tabla : List MemoryStick}
    (h : base.toNat + sumaSticks tabla < 2 ^ 32) :
    (sumaTamanios base tabla).toNat = base.toNat + sumaSticks tabla := by
  induction tabla generalizing base with
  | nil => rfl
  | cons stick resto ih =>
    have hsuma : sumaSticks (stick :: resto) = stick.tamanio.toNat + sumaSticks resto := by
      simp [sumaSticks]
    have hbase : (base + stick.tamanio).toNat = base.toNat + stick.tamanio.toNat :=
      toNat_add_of_lt (by omega)
    have hresto : (sumaTamanios (base + stick.tamanio) resto).toNat =
        (base + stick.tamanio).toNat + sumaSticks resto := ih (by rw [hbase]; omega)
    simp only [sumaTamanios, List.foldl_cons] at hresto ⊢
    omega

/-- Registered and reachable sticks serve every address below their total, and serve a whole
stretch of it from one buffer: from the address to the end of the stick's range. `cubierto` is
where the sticks before this part of the table end. -/
theorem ubicar_tramo {base : UInt32} {tabla : List MemoryStick} {cubierto address : ℕ}
    (hbases : BasesAcumuladas base tabla) (hopen : Alcanzables tabla)
    (hcubierto : base.toNat ≤ cubierto) (hdesde : cubierto ≤ address)
    (htotal : address < (sumaTamanios base tabla).toNat) :
    ∃ idx stick, tabla[idx]? = some stick ∧ stick.Cubre address ∧
      stick.baseFisica.toNat + stick.tamanio.toNat < 2 ^ 32 ∧
      ∀ other, address ≤ other → other < stick.baseFisica.toNat + stick.tamanio.toNat →
        ubicar tabla other = some idx := by
  induction tabla generalizing base cubierto with
  | nil =>
    simp only [sumaTamanios, List.foldl_nil] at htotal
    omega
  | cons stick resto ih =>
    obtain ⟨hbase, hresto⟩ := hbases
    have habierto : 0 ≤ stick.outboundSocket := hopen stick List.mem_cons_self
    have hopenResto : Alcanzables resto := fun s hs ↦ hopen s (List.mem_cons_of_mem _ hs)
    have hsum : (base + stick.tamanio).toNat = (base.toNat + stick.tamanio.toNat) % 2 ^ 32 :=
      UInt32.toNat_add _ _
    have hlt := stick.tamanio.toNat_lt
    have hltBase := base.toNat_lt
    by_cases hcubre : stick.Cubre address
    · -- the head serves the address; its range cannot wrap, since the address lies in it
      have hfin := hcubre.2.2
      rw [hbase] at hfin
      have hrango : stick.baseFisica.toNat + stick.tamanio.toNat < 2 ^ 32 := by
        rw [hbase]
        have hle := hcubre.2.1
        rw [hbase] at hle
        omega
      refine ⟨0, stick, rfl, hcubre, hrango, fun other hle hother ↦ ?_⟩
      have hcubreOther : stick.Cubre other := by
        refine ⟨habierto, ?_, ?_⟩
        · exact hcubre.2.1.trans hle
        · rw [toNat_add_of_lt hrango]
          exact hother
      simp [ubicar, List.findIdx?_cons, hcubreOther]
    · -- the head ends before the address, or its wrapped range is empty
      have hpasado : (base + stick.tamanio).toNat ≤ address := by
        by_contra hnot
        exact hcubre ⟨habierto, by rw [hbase]; omega, by rw [hbase]; omega⟩
      obtain ⟨idx, s, hget, hs, hrango, htramo⟩ :=
        ih hresto hopenResto (le_max_right cubierto _) (max_le hdesde hpasado) htotal
      refine ⟨idx + 1, s, by simpa using hget, hs, hrango, fun other hle hother ↦ ?_⟩
      have hno : ¬ stick.Cubre other := by
        intro h
        have := h.2.2
        rw [hbase] at this
        omega
      have hresto := htramo other hle hother
      unfold ubicar at hresto ⊢
      simp [List.findIdx?_cons, hno, hresto]

/-- Where a stick begins and how long it is. -/
def MemoryStick.medidas (stick : MemoryStick) : UInt32 × UInt32 := (stick.baseFisica, stick.tamanio)

theorem sumaTamanios_congr {tabla otra : List MemoryStick}
    (h : tabla.map MemoryStick.medidas = otra.map MemoryStick.medidas) (base : UInt32) :
    sumaTamanios base tabla = sumaTamanios base otra := by
  have hmap : ∀ l : List MemoryStick, sumaTamanios base l =
      (l.map MemoryStick.medidas).foldl (fun total medidas ↦ total + medidas.2) base := by
    intro l
    rw [List.foldl_map]
    rfl
  rw [hmap, hmap, h]

theorem sumaSticks_congr {tabla otra : List MemoryStick}
    (h : tabla.map MemoryStick.medidas = otra.map MemoryStick.medidas) :
    sumaSticks tabla = sumaSticks otra := by
  have hmap : ∀ l : List MemoryStick, sumaSticks l =
      ((l.map MemoryStick.medidas).map fun medidas ↦ medidas.2.toNat).sum := by
    intro l
    rw [List.map_map]
    rfl
  rw [hmap, hmap, h]

theorem basesAcumuladas_congr {tabla otra : List MemoryStick}
    (h : tabla.map MemoryStick.medidas = otra.map MemoryStick.medidas) {base : UInt32} :
    BasesAcumuladas base tabla ↔ BasesAcumuladas base otra := by
  induction tabla generalizing otra base with
  | nil =>
    obtain rfl : otra = [] := List.map_eq_nil_iff.mp h.symm
    exact Iff.rfl
  | cons stick resto ih =>
    cases otra with
    | nil => cases h
    | cons primero cola =>
      obtain ⟨hmedidas, hcola⟩ := List.cons.inj h
      obtain ⟨hbase, htam⟩ := Prod.mk.inj hmedidas
      simp only [BasesAcumuladas, hbase, htam, ih hcola]

theorem medidas_setOutboundSocket (tabla : List MemoryStick) (idx : ℕ) (sock : ℤ) :
    (conexionesStickSetOutboundSocket tabla idx sock).map MemoryStick.medidas =
      tabla.map MemoryStick.medidas :=
  ListModify.map_modify_of_forall tabla idx _ _ fun _ ↦ rfl

/-! ## The flat memory of the sticks -/

/-- The byte at a physical address: the one of the first stick that covers it. -/
def plano (tabla : List MemoryStick) (address : ℕ) : UInt8 :=
  match ubicar tabla address with
  | none => 0
  | some idx =>
    match tabla[idx]? with
    | none => 0
    | some stick => stick.memoria (address - stick.baseFisica.toNat)

theorem plano_of_ubicar {tabla : List MemoryStick} {address idx : ℕ} {stick : MemoryStick}
    (hubicar : ubicar tabla address = some idx) (hget : tabla[idx]? = some stick) :
    plano tabla address = stick.memoria (address - stick.baseFisica.toNat) := by
  simp only [plano, hubicar, hget]

theorem cubre_of_ubicar {tabla : List MemoryStick} {address idx : ℕ}
    (h : ubicar tabla address = some idx) : ∃ stick, tabla[idx]? = some stick ∧ stick.Cubre address := by
  obtain ⟨hlt, hcubre, _⟩ := List.findIdx?_eq_some_iff_getElem.mp h
  exact ⟨tabla[idx], List.getElem?_eq_getElem hlt, by simpa using hcubre⟩

/-! ## Tables that differ only in their buffers -/

/-- The entry without the bytes behind it. -/
def MemoryStick.entrada (stick : MemoryStick) : MemoryStick := { stick with memoria := fun _ ↦ 0 }

/-- The two tables have the same entries, whatever their buffers hold. -/
def MismaTabla (tabla otra : List MemoryStick) : Prop :=
  tabla.map MemoryStick.entrada = otra.map MemoryStick.entrada

theorem MismaTabla.refl (tabla : List MemoryStick) : MismaTabla tabla tabla := rfl

theorem MismaTabla.symm {tabla otra : List MemoryStick} (h : MismaTabla tabla otra) :
    MismaTabla otra tabla :=
  Eq.symm h

theorem MismaTabla.trans {tabla otra tercera : List MemoryStick} (h : MismaTabla tabla otra)
    (h' : MismaTabla otra tercera) : MismaTabla tabla tercera :=
  Eq.trans h h'

theorem ubicar_entrada (tabla : List MemoryStick) (address : ℕ) :
    ubicar (tabla.map MemoryStick.entrada) address = ubicar tabla address := by
  rw [ubicar, List.findIdx?_map]
  rfl

theorem alcanzables_entrada {tabla : List MemoryStick} :
    Alcanzables (tabla.map MemoryStick.entrada) ↔ Alcanzables tabla := by
  simp [Alcanzables, MemoryStick.entrada]

section MismaTabla

variable {tabla otra : List MemoryStick} (h : MismaTabla tabla otra)
include h

theorem MismaTabla.ubicar (address : ℕ) : ubicar tabla address = Memoria.ubicar otra address := by
  rw [← ubicar_entrada tabla, h, ubicar_entrada]

theorem MismaTabla.medidas : tabla.map MemoryStick.medidas = otra.map MemoryStick.medidas := by
  have hmedidas : ∀ l : List MemoryStick,
      l.map MemoryStick.medidas = (l.map MemoryStick.entrada).map MemoryStick.medidas := by
    intro l
    rw [List.map_map]
    rfl
  rw [hmedidas tabla, hmedidas otra, h]

theorem MismaTabla.sumaTamanios (base : UInt32) :
    sumaTamanios base tabla = Memoria.sumaTamanios base otra :=
  sumaTamanios_congr h.medidas base

theorem MismaTabla.sumaSticks : sumaSticks tabla = Memoria.sumaSticks otra :=
  sumaSticks_congr h.medidas

theorem MismaTabla.basesAcumuladas (base : UInt32) :
    BasesAcumuladas base tabla ↔ BasesAcumuladas base otra :=
  basesAcumuladas_congr h.medidas

theorem MismaTabla.alcanzables : Alcanzables tabla ↔ Alcanzables otra := by
  rw [← alcanzables_entrada, h, alcanzables_entrada]

end MismaTabla

theorem MemoryStick.entrada_manejarEscritura (stick : MemoryStick) (dir tam : UInt32)
    (datos : List UInt8) : (stick.manejarEscritura dir tam datos).entrada = stick.entrada := by
  unfold manejarEscritura
  split <;> rfl

theorem mismaTabla_modify (tabla : List MemoryStick) (idx : ℕ) {f : MemoryStick → MemoryStick}
    (hf : ∀ stick, (f stick).entrada = stick.entrada) : MismaTabla (tabla.modify idx f) tabla :=
  ListModify.map_modify_of_forall tabla idx f _ hf

end PlugAndPlay.Memoria
