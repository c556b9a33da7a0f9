import PlugAndPlay.Memoria.MemoryIo
import Mathlib.Data.List.Nodup
import Mathlib.Data.List.Perm.Subperm

/-!
# The requests of a transfer

Both loops of `memory_io.c` cut a range in the same way, whatever the sticks hold. `accesosIo` is the
list of requests they make; each loop is this list, served in order.
-/

open PlugAndPlay.Library

namespace PlugAndPlay.Memoria

/-- One request to a stick: its index, the offset into its buffer and the number of bytes. -/
structure Acceso where
  stick : ℕ
  localOffset : UInt32
  bytes : UInt32
deriving Repr, DecidableEq

/-- The request that an iteration of either loop makes; nothing when no stick serves the address. -/
def siguienteAcceso (tabla : List MemoryStick) (dirAct restante : UInt32) : Option Acceso :=
  match conexionesBuscarStickPorDir tabla dirAct with
  | none => none
  | some idx =>
    match tabla[idx]? with
    | none => none
    | some stick =>
      let localOffset := dirAct - stick.baseFisica
      let hastaElFin := stick.tamanio - localOffset
      some ⟨idx, localOffset, if hastaElFin > restante then restante else hastaElFin⟩

/-- The requests of both loops in order, up to an address without stick, and whether there was none
such. -/
def accesosIo : ℕ → List MemoryStick → UInt32 → UInt32 → List Acceso × Bool
  | 0, _, _, _ => ([], true)
  | pasos + 1, tabla, dirAct, restante =>
    if restante = 0 then ([], true)
    else
      match siguienteAcceso tabla dirAct restante with
      | none => ([], false)
      | some acceso =>
        let resto := accesosIo pasos tabla (dirAct + acceso.bytes) (restante - acceso.bytes)
        (acceso :: resto.1, resto.2)

/-- The requests of a transfer of `tamanio` bytes from an address on. -/
def accesos (tabla : List MemoryStick) (dirFisica tamanio : UInt32) : List Acceso × Bool :=
  accesosIo tamanio.toNat tabla dirFisica tamanio

/-- The sticks answer reads one after the other. -/
def servirLecturas (tabla : List MemoryStick) : List Acceso → Option (List UInt8)
  | [] => some []
  | acceso :: resto =>
    match tabla[acceso.stick]? with
    | none => none
    | some stick =>
      match stick.manejarLectura acceso.localOffset acceso.bytes with
      | none => none
      | some datos => (servirLecturas tabla resto).map (datos ++ ·)

/-- The sticks take writes one after the other, each the front of what is left. -/
def servirEscrituras (tabla : List MemoryStick) : List Acceso → List UInt8 → List MemoryStick
  | [], _ => tabla
  | acceso :: resto, datos =>
    servirEscrituras (tabla.modify acceso.stick fun stick ↦
      stick.manejarEscritura acceso.localOffset acceso.bytes datos) resto (datos.drop acceso.bytes.toNat)

/-! ## Every iteration moves at least one byte -/

theorem siguienteAcceso_eq_some {tabla : List MemoryStick} {dirAct restante : UInt32} {acceso : Acceso}
    (h : siguienteAcceso tabla dirAct restante = some acceso) :
    ∃ stick, conexionesBuscarStickPorDir tabla dirAct = some acceso.stick ∧
      tabla[acceso.stick]? = some stick ∧ acceso.localOffset = dirAct - stick.baseFisica ∧
      acceso.bytes = if stick.tamanio - acceso.localOffset > restante then restante
        else stick.tamanio - acceso.localOffset := by
  unfold siguienteAcceso at h
  split at h
  · cases h
  · rename_i idx hbusca
    split at h
    · cases h
    · rename_i stick hget
      obtain rfl := Option.some.inj h
      exact ⟨stick, hbusca, hget, rfl, rfl⟩

theorem siguienteAcceso_eq_none {tabla : List MemoryStick} {dirAct restante : UInt32}
    (h : siguienteAcceso tabla dirAct restante = none) :
    conexionesBuscarStickPorDir tabla dirAct = none ∨
      ∃ idx, conexionesBuscarStickPorDir tabla dirAct = some idx ∧ tabla[idx]? = none := by
  unfold siguienteAcceso at h
  split at h
  · rename_i hbusca
    exact Or.inl hbusca
  · rename_i idx hbusca
    split at h
    · rename_i hget
      exact Or.inr ⟨idx, hbusca, hget⟩
    · cases h

/-- A stick that serves an address has bytes from there on: its range does not wrap. -/
theorem MemoryStick.Sirve.resta {stick : MemoryStick} {dirFisica : UInt32} (h : stick.Sirve dirFisica) :
    (stick.tamanio - (dirFisica - stick.baseFisica)).toNat =
        stick.baseFisica.toNat + stick.tamanio.toNat - dirFisica.toNat ∧
      dirFisica.toNat < stick.baseFisica.toNat + stick.tamanio.toNat ∧
      stick.baseFisica.toNat + stick.tamanio.toNat < 2 ^ 32 := by
  obtain ⟨_, hbase, hfin⟩ := MemoryStick.sirve_iff_cubre.mp h
  have hsuma : (stick.baseFisica + stick.tamanio).toNat =
      (stick.baseFisica.toNat + stick.tamanio.toNat) % 2 ^ 32 := UInt32.toNat_add _ _
  have htam := stick.tamanio.toNat_lt
  have hbaseLt := stick.baseFisica.toNat_lt
  have hrango : stick.baseFisica.toNat + stick.tamanio.toNat < 2 ^ 32 := by omega
  have hlocal : (dirFisica - stick.baseFisica).toNat = dirFisica.toNat - stick.baseFisica.toNat :=
    toNat_sub_of_le hbase
  rw [toNat_add_of_lt hrango] at hfin
  have hresta : (stick.tamanio - (dirFisica - stick.baseFisica)).toNat =
      stick.tamanio.toNat - (dirFisica - stick.baseFisica).toNat := toNat_sub_of_le (by omega)
  exact ⟨by omega, hfin, hrango⟩

theorem sirve_of_buscar {tabla : List MemoryStick} {dirFisica : UInt32} {idx : ℕ} {stick : MemoryStick}
    (hbusca : conexionesBuscarStickPorDir tabla dirFisica = some idx)
    (hget : tabla[idx]? = some stick) : stick.Sirve dirFisica := by
  obtain ⟨hlt, hsirve, _⟩ := List.findIdx?_eq_some_iff_getElem.mp hbusca
  have heq : tabla[idx] = stick := Option.some.inj ((List.getElem?_eq_getElem hlt).symm.trans hget)
  rw [heq] at hsirve
  simpa using hsirve

theorem siguienteAcceso_pos {tabla : List MemoryStick} {dirAct restante : UInt32} {acceso : Acceso}
    (h : siguienteAcceso tabla dirAct restante = some acceso) (hrestante : restante ≠ 0) :
    0 < acceso.bytes.toNat ∧ acceso.bytes.toNat ≤ restante.toNat := by
  obtain ⟨stick, hbusca, hget, hlocal, hbytes⟩ := siguienteAcceso_eq_some h
  obtain ⟨hresta, hdentro, _⟩ := (sirve_of_buscar hbusca hget).resta
  have hpos : restante.toNat ≠ 0 := fun hcero ↦ hrestante (UInt32.toNat_inj.mp hcero)
  rw [hbytes, hlocal]
  split
  · omega
  · rename_i hle
    have hmenor := UInt32.le_iff_toNat_le.mp (UInt32.not_lt.mp hle)
    omega

/-- No piece is empty or longer than the transfer. -/
theorem bytes_accesosIo (pasos : ℕ) {tabla : List MemoryStick} {dir tam : UInt32} :
    ∀ acceso ∈ (accesosIo pasos tabla dir tam).1, 0 < acceso.bytes.toNat ∧ acceso.bytes.toNat ≤ tam.toNat := by
  induction pasos generalizing dir tam with
  | zero => exact fun acceso hacceso ↦ absurd hacceso List.not_mem_nil
  | succ pasos ih =>
    intro acceso hacceso
    unfold accesosIo at hacceso
    by_cases hcero : tam = 0
    · rw [if_pos hcero] at hacceso
      exact absurd hacceso List.not_mem_nil
    · rw [if_neg hcero] at hacceso
      cases hprimero : siguienteAcceso tabla dir tam with
      | none =>
        rw [hprimero] at hacceso
        exact absurd hacceso List.not_mem_nil
      | some primero =>
        simp only [hprimero] at hacceso
        obtain ⟨hpos, hle⟩ := siguienteAcceso_pos hprimero hcero
        cases List.mem_cons.mp hacceso with
        | inl heq =>
          rw [heq]
          exact ⟨hpos, hle⟩
        | inr hresto =>
          obtain ⟨hpos, hcorta⟩ := ih acceso hresto
          refine ⟨hpos, ?_⟩
          calc acceso.bytes.toNat ≤ (tam - primero.bytes).toNat := hcorta
            _ = tam.toNat - primero.bytes.toNat := toNat_sub_of_le hle
            _ ≤ tam.toNat := Nat.sub_le _ _

/-! ## The loops serve the list -/

theorem siguienteAcceso_entrada (tabla : List MemoryStick) (dirAct restante : UInt32) :
    siguienteAcceso (tabla.map MemoryStick.entrada) dirAct restante =
      siguienteAcceso tabla dirAct restante := by
  unfold siguienteAcceso
  rw [conexionesBuscarStickPorDir_eq, conexionesBuscarStickPorDir_eq, ubicar_entrada]
  cases ubicar tabla dirAct.toNat with
  | none => rfl
  | some idx =>
    simp only [List.getElem?_map]
    cases tabla[idx]? <;> rfl

/-- Which requests are made does not depend on what the sticks hold. -/
theorem MismaTabla.accesosIo {tabla otra : List MemoryStick} (h : MismaTabla tabla otra) (pasos : ℕ)
    (dirAct restante : UInt32) :
    accesosIo pasos tabla dirAct restante = Memoria.accesosIo pasos otra dirAct restante := by
  have hsiguiente : ∀ dir n, siguienteAcceso tabla dir n = siguienteAcceso otra dir n := by
    intro dir n
    rw [← siguienteAcceso_entrada, h, siguienteAcceso_entrada]
  induction pasos generalizing dirAct restante with
  | zero => rfl
  | succ pasos ih => simp only [Memoria.accesosIo, hsiguiente, ih]

theorem leerTramos_servir (pasos : ℕ) {ram : Ram} (hcortes : ram.cortes = [])
    {dirAct restante : UInt32} {lista : List Acceso} {datos : List UInt8}
    (hlista : accesosIo pasos ram.tabla dirAct restante = (lista, true))
    (hdatos : servirLecturas ram.tabla lista = some datos) :
    leerTramos pasos ram dirAct restante = (.ok datos, ram) := by
  have hcorte : ram.siguienteCorte = (false, ram) := by simp only [Ram.siguienteCorte, hcortes]
  induction pasos generalizing dirAct restante lista datos with
  | zero =>
    obtain rfl : [] = lista := congrArg Prod.fst hlista
    obtain rfl := Option.some.inj hdatos
    rfl
  | succ pasos ih =>
    unfold accesosIo at hlista
    unfold leerTramos
    split at hlista
    · rename_i hcero
      obtain rfl : [] = lista := congrArg Prod.fst hlista
      obtain rfl := Option.some.inj hdatos
      rw [if_pos hcero]
    · rename_i hcero
      rw [if_neg hcero]
      split at hlista
      · cases congrArg Prod.snd hlista
      · rename_i acceso hacceso
        obtain ⟨stick, hbusca, hget, hlocal, hbytes⟩ := siguienteAcceso_eq_some hacceso
        obtain rfl : acceso :: (accesosIo pasos ram.tabla (dirAct + acceso.bytes)
            (restante - acceso.bytes)).1 = lista := congrArg Prod.fst hlista
        have hcompleta : (accesosIo pasos ram.tabla (dirAct + acceso.bytes)
            (restante - acceso.bytes)).2 = true := congrArg Prod.snd hlista
        unfold servirLecturas at hdatos
        simp only [hget] at hdatos
        split at hdatos
        · cases hdatos
        · rename_i pieza hpieza
          obtain ⟨resto, hresto, rfl⟩ := Option.map_eq_some_iff.mp hdatos
          have hih : leerTramos pasos ram (dirAct + acceso.bytes) (restante - acceso.bytes) =
              (.ok resto, ram) := ih (Prod.ext rfl hcompleta) hresto
          simp only [hbusca, hget, ← hbytes, ← hlocal, hcorte, hpieza, hih]

theorem escribirTramos_servir (pasos : ℕ) {ram : Ram} (hcortes : ram.cortes = [])
    {dirAct restante : UInt32} {lista : List Acceso} (datos : List UInt8)
    (hlista : accesosIo pasos ram.tabla dirAct restante = (lista, true)) :
    escribirTramos pasos ram dirAct restante datos =
      (.ok (), { ram with tabla := servirEscrituras ram.tabla lista datos }) := by
  induction pasos generalizing ram dirAct restante lista datos with
  | zero =>
    obtain rfl : [] = lista := congrArg Prod.fst hlista
    rfl
  | succ pasos ih =>
    have hcorte : ram.siguienteCorte = (false, ram) := by simp only [Ram.siguienteCorte, hcortes]
    unfold accesosIo at hlista
    unfold escribirTramos
    split at hlista
    · rename_i hcero
      obtain rfl : [] = lista := congrArg Prod.fst hlista
      rw [if_pos hcero]
      rfl
    · rename_i hcero
      rw [if_neg hcero]
      split at hlista
      · cases congrArg Prod.snd hlista
      · rename_i acceso hacceso
        obtain ⟨stick, hbusca, hget, hlocal, hbytes⟩ := siguienteAcceso_eq_some hacceso
        obtain rfl : acceso :: (accesosIo pasos ram.tabla (dirAct + acceso.bytes)
            (restante - acceso.bytes)).1 = lista := congrArg Prod.fst hlista
        have hcompleta : (accesosIo pasos ram.tabla (dirAct + acceso.bytes)
            (restante - acceso.bytes)).2 = true := congrArg Prod.snd hlista
        have hforma : MismaTabla (ram.pedirEscritura acceso.stick acceso.localOffset acceso.bytes
            datos).tabla ram.tabla :=
          mismaTabla_modify _ _ fun s ↦ s.entrada_manejarEscritura _ _ _
        have hih := @ih (ram.pedirEscritura acceso.stick acceso.localOffset acceso.bytes datos) hcortes
          _ _ _ (datos.drop acceso.bytes.toNat)
          ((hforma.accesosIo pasos _ _).trans (Prod.ext rfl hcompleta))
        simp only [hbusca, hget, ← hbytes, ← hlocal, hcorte, hih]
        rfl

/-! ## One turn of a loop -/

/-- What the stick of a request has to answer a read with. -/
def Acceso.pieza (tabla : List MemoryStick) (acceso : Acceso) : Option (List UInt8) :=
  tabla[acceso.stick]?.bind fun stick ↦ stick.manejarLectura acceso.localOffset acceso.bytes

section Turnos

variable {ram despues : Ram} {dirAct restante : UInt32} {acceso : Acceso} {datos : List UInt8} (pasos : ℕ)

theorem leerTramos_sinStick (hcero : restante ≠ 0) (h : siguienteAcceso ram.tabla dirAct restante = none) :
    leerTramos (pasos + 1) ram dirAct restante = (.error .sinStick, ram) := by
  rcases siguienteAcceso_eq_none h with hbusca | ⟨idx, hbusca, hget⟩
  · rw [leerTramos, if_neg hcero, hbusca]
  · rw [leerTramos, if_neg hcero, hbusca]
    dsimp only
    rw [hget]

theorem leerTramos_corte (hcero : restante ≠ 0) (h : siguienteAcceso ram.tabla dirAct restante = some acceso)
    (hcorte : ram.siguienteCorte = (true, despues)) :
    leerTramos (pasos + 1) ram dirAct restante = (.error .desconectado, despues.avisar) := by
  obtain ⟨stick, hbusca, hget, -, -⟩ := siguienteAcceso_eq_some h
  rw [leerTramos, if_neg hcero, hbusca]
  dsimp only
  rw [hget, hcorte]

theorem leerTramos_acceso (hcero : restante ≠ 0) (h : siguienteAcceso ram.tabla dirAct restante = some acceso)
    (hcorte : ram.siguienteCorte = (false, despues)) (hpieza : acceso.pieza ram.tabla = some datos) :
    leerTramos (pasos + 1) ram dirAct restante =
      ((leerTramos pasos despues (dirAct + acceso.bytes) (restante - acceso.bytes)).1.map (datos ++ ·),
        (leerTramos pasos despues (dirAct + acceso.bytes) (restante - acceso.bytes)).2) := by
  obtain ⟨stick, hbusca, hget, hlocal, hbytes⟩ := siguienteAcceso_eq_some h
  unfold Acceso.pieza at hpieza
  rw [hget, Option.bind_some] at hpieza
  rw [leerTramos, if_neg hcero, hbusca]
  dsimp only
  rw [hget, hcorte]
  dsimp only
  rw [← hlocal, ← hbytes, hpieza]
  dsimp only
  rcases leerTramos pasos despues (dirAct + acceso.bytes) (restante - acceso.bytes) with ⟨leido, final⟩
  cases leido with
  | ok resto => rfl
  | error fallo => rfl

theorem escribirTramos_sinStick (hcero : restante ≠ 0) (h : siguienteAcceso ram.tabla dirAct restante = none) :
    escribirTramos (pasos + 1) ram dirAct restante datos = (.error .sinStick, ram) := by
  rcases siguienteAcceso_eq_none h with hbusca | ⟨idx, hbusca, hget⟩
  · rw [escribirTramos, if_neg hcero, hbusca]
  · rw [escribirTramos, if_neg hcero, hbusca]
    dsimp only
    rw [hget]

theorem escribirTramos_corte (hcero : restante ≠ 0) (h : siguienteAcceso ram.tabla dirAct restante = some acceso)
    (hcorte : ram.siguienteCorte = (true, despues)) :
    escribirTramos (pasos + 1) ram dirAct restante datos = (.error .desconectado, despues.avisar) := by
  obtain ⟨stick, hbusca, hget, -, -⟩ := siguienteAcceso_eq_some h
  rw [escribirTramos, if_neg hcero, hbusca]
  dsimp only
  rw [hget, hcorte]

theorem escribirTramos_acceso (hcero : restante ≠ 0) (h : siguienteAcceso ram.tabla dirAct restante = some acceso)
    (hcorte : ram.siguienteCorte = (false, despues)) :
    escribirTramos (pasos + 1) ram dirAct restante datos =
      escribirTramos pasos (despues.pedirEscritura acceso.stick acceso.localOffset acceso.bytes datos)
        (dirAct + acceso.bytes) (restante - acceso.bytes) (datos.drop acceso.bytes.toNat) := by
  obtain ⟨stick, hbusca, hget, hlocal, hbytes⟩ := siguienteAcceso_eq_some h
  rw [escribirTramos, if_neg hcero, hbusca]
  dsimp only
  rw [hget, hcorte]
  dsimp only
  rw [← hlocal, ← hbytes]

theorem accesosIo_sinStick {tabla : List MemoryStick} (hcero : restante ≠ 0)
    (h : siguienteAcceso tabla dirAct restante = none) : accesosIo (pasos + 1) tabla dirAct restante = ([], false) := by
  rw [accesosIo, if_neg hcero, h]

theorem accesosIo_pieza {tabla : List MemoryStick} (hcero : restante ≠ 0)
    (h : siguienteAcceso tabla dirAct restante = some acceso) :
    accesosIo (pasos + 1) tabla dirAct restante =
      (acceso :: (accesosIo pasos tabla (dirAct + acceso.bytes) (restante - acceso.bytes)).1,
        (accesosIo pasos tabla (dirAct + acceso.bytes) (restante - acceso.bytes)).2) := by
  rw [accesosIo, if_neg hcero, h]

end Turnos

/-- A stick has the bytes that are asked of it. -/
theorem manejarLectura_of_acceso {tabla : List MemoryStick} {dirAct restante : UInt32} {acceso : Acceso}
    {stick : MemoryStick} (h : siguienteAcceso tabla dirAct restante = some acceso)
    (hget : tabla[acceso.stick]? = some stick) :
    ∃ datos, stick.manejarLectura acceso.localOffset acceso.bytes = some datos ∧
      datos.length = acceso.bytes.toNat := by
  obtain ⟨otro, hbusca, hotro, hlocal, hbytes⟩ := siguienteAcceso_eq_some h
  obtain rfl := Option.some.inj (hotro.symm.trans hget)
  obtain ⟨hresta, hdentro, hrango⟩ := (sirve_of_buscar hbusca hotro).resta
  have hbase := UInt32.le_iff_toNat_le.mp (sirve_of_buscar hbusca hotro).2.1
  have hoffset : acceso.localOffset.toNat = dirAct.toNat - otro.baseFisica.toNat := by
    rw [hlocal]
    exact toNat_sub_of_le hbase
  rw [← hlocal] at hresta
  have hle : acceso.bytes.toNat ≤ (otro.tamanio - acceso.localOffset).toNat := by
    rw [hbytes]
    split
    · rename_i hmayor
      exact Nat.le_of_lt (UInt32.lt_iff_toNat_lt.mp hmayor)
    · exact le_rfl
  have hcabe : acceso.localOffset + acceso.bytes ≤ otro.tamanio := by
    rw [UInt32.le_iff_toNat_le, toNat_add_of_lt (by omega)]
    omega
  exact ⟨_, if_pos hcabe, ByteMemory.length_slice ..⟩

theorem pieza_of_acceso {tabla : List MemoryStick} {dirAct restante : UInt32} {acceso : Acceso}
    (h : siguienteAcceso tabla dirAct restante = some acceso) :
    ∃ datos, acceso.pieza tabla = some datos ∧ datos.length = acceso.bytes.toNat := by
  obtain ⟨stick, -, hget, -, -⟩ := siguienteAcceso_eq_some h
  obtain ⟨datos, hdatos, hlargo⟩ := manejarLectura_of_acceso h hget
  refine ⟨datos, ?_, hlargo⟩
  unfold Acceso.pieza
  rw [hget]
  exact hdatos

theorem Ram.siguienteCorte_eq (ram : Ram) :
    ram.siguienteCorte = (ram.cortes.headD false, { ram with cortes := ram.cortes.tail }) := by
  obtain ⟨tabla, cortes, avisos⟩ := ram
  cases cortes <;> rfl

theorem Ram.siguienteCorte_of_headD {ram : Ram} {corte : Bool} (h : ram.cortes.headD false = corte) :
    ram.siguienteCorte = (corte, { ram with cortes := ram.cortes.tail }) := by
  rw [ram.siguienteCorte_eq, h]

theorem Ram.tabla_of_siguienteCorte {ram despues : Ram} {corte : Bool} (h : ram.siguienteCorte = (corte, despues)) :
    despues.tabla = ram.tabla := by
  have htabla := ram.tabla_siguienteCorte
  rwa [h] at htabla

theorem Ram.mismaTabla_pedirEscritura (ram : Ram) (acceso : Acceso) (datos : List UInt8) :
    MismaTabla (ram.pedirEscritura acceso.stick acceso.localOffset acceso.bytes datos).tabla ram.tabla :=
  mismaTabla_modify _ _ fun s ↦ s.entrada_manejarEscritura _ _ _

/-- Where no connection breaks both loops stop with an error at an address without stick. -/
theorem leerTramos_sinCortes (pasos : ℕ) {ram : Ram} (hcortes : ram.cortes = []) {dirAct restante : UInt32}
    (hlista : (accesosIo pasos ram.tabla dirAct restante).2 = false) :
    leerTramos pasos ram dirAct restante = (.error .sinStick, ram) := by
  have hcorte : ram.siguienteCorte = (false, ram) := by simp only [Ram.siguienteCorte, hcortes]
  induction pasos generalizing dirAct restante with
  | zero => cases hlista
  | succ pasos ih =>
    have hcero : restante ≠ 0 := by
      rintro rfl
      cases hlista
    cases hacceso : siguienteAcceso ram.tabla dirAct restante with
    | none => exact leerTramos_sinStick pasos hcero hacceso
    | some acceso =>
      rw [accesosIo_pieza pasos hcero hacceso] at hlista
      obtain ⟨datos, hpieza, -⟩ := pieza_of_acceso hacceso
      rw [leerTramos_acceso pasos hcero hacceso hcorte hpieza, ih hlista]
      rfl

theorem escribirTramos_sinCortes (pasos : ℕ) {ram : Ram} (hcortes : ram.cortes = []) {dirAct restante : UInt32}
    (datos : List UInt8) (hlista : (accesosIo pasos ram.tabla dirAct restante).2 = false) :
    (escribirTramos pasos ram dirAct restante datos).1 = .error .sinStick := by
  induction pasos generalizing ram dirAct restante datos with
  | zero => cases hlista
  | succ pasos ih =>
    have hcorte : ram.siguienteCorte = (false, ram) := by simp only [Ram.siguienteCorte, hcortes]
    have hcero : restante ≠ 0 := by
      rintro rfl
      cases hlista
    cases hacceso : siguienteAcceso ram.tabla dirAct restante with
    | none => rw [escribirTramos_sinStick pasos hcero hacceso]
    | some acceso =>
      rw [accesosIo_pieza pasos hcero hacceso] at hlista
      rw [escribirTramos_acceso pasos hcero hacceso hcorte]
      apply ih
      · exact hcortes
      · rw [(ram.mismaTabla_pedirEscritura acceso datos).accesosIo]
        exact hlista

/-! ## What the list covers -/

/-- The request lies in the buffer of its stick. -/
def Acceso.Dentro (tabla : List MemoryStick) (acceso : Acceso) : Prop :=
  ∃ stick, tabla[acceso.stick]? = some stick ∧ acceso.localOffset + acceso.bytes ≤ stick.tamanio

theorem siguienteAcceso_dentro {tabla : List MemoryStick} {dirAct restante : UInt32} {acceso : Acceso}
    (h : siguienteAcceso tabla dirAct restante = some acceso) :
    acceso.Dentro tabla ∧ ∃ stick, tabla[acceso.stick]? = some stick ∧
      dirAct.toNat + acceso.bytes.toNat ≤ stick.baseFisica.toNat + stick.tamanio.toNat := by
  obtain ⟨stick, hbusca, hget, hlocal, hbytes⟩ := siguienteAcceso_eq_some h
  have hsirve := sirve_of_buscar hbusca hget
  obtain ⟨hresta, hdentro, hrango⟩ := hsirve.resta
  have hbase : stick.baseFisica.toNat ≤ dirAct.toNat := UInt32.le_iff_toNat_le.mp hsirve.2.1
  have hoffset : (dirAct - stick.baseFisica).toNat = dirAct.toNat - stick.baseFisica.toNat :=
    toNat_sub_of_le hbase
  have hlargo : acceso.bytes.toNat ≤ (stick.tamanio - (dirAct - stick.baseFisica)).toNat := by
    rw [hbytes, hlocal]
    split
    · rename_i hgt
      exact (UInt32.lt_iff_toNat_lt.mp hgt).le
    · exact le_rfl
  refine ⟨⟨stick, hget, ?_⟩, stick, hget, by omega⟩
  rw [hlocal, UInt32.le_iff_toNat_le, toNat_add_of_lt (by omega)]
  omega

theorem accesosIo_dentro (pasos : ℕ) (tabla : List MemoryStick) (dirAct restante : UInt32) :
    ∀ acceso ∈ (accesosIo pasos tabla dirAct restante).1, acceso.Dentro tabla := by
  induction pasos generalizing dirAct restante with
  | zero => exact nofun
  | succ pasos ih =>
    unfold accesosIo
    split
    · exact nofun
    · split
      · exact nofun
      · rename_i acceso hacceso
        exact List.forall_mem_cons.mpr ⟨(siguienteAcceso_dentro hacceso).1, ih _ _⟩

/-- Requests inside the buffers are all answered. -/
theorem servirLecturas_of_dentro {tabla : List MemoryStick} {lista : List Acceso}
    (h : ∀ acceso ∈ lista, acceso.Dentro tabla) : ∃ datos, servirLecturas tabla lista = some datos := by
  induction lista with
  | nil => exact ⟨[], rfl⟩
  | cons acceso resto ih =>
    obtain ⟨hacceso, hresto⟩ := List.forall_mem_cons.mp h
    obtain ⟨stick, hget, hcabe⟩ := hacceso
    obtain ⟨datos, hdatos⟩ := ih hresto
    simp only [servirLecturas, hget, MemoryStick.manejarLectura, if_pos hcabe, hdatos,
      Option.map_some]
    exact ⟨_, rfl⟩

theorem memoryIoLeer_servir {ram : Ram} (hcortes : ram.cortes = []) {dirFisica tamanio : UInt32}
    (hcompleta : (accesos ram.tabla dirFisica tamanio).2 = true) :
    ∃ datos, servirLecturas ram.tabla (accesos ram.tabla dirFisica tamanio).1 = some datos ∧
      memoryIoLeer ram dirFisica tamanio = (.ok datos, ram) := by
  obtain ⟨datos, hdatos⟩ :=
    servirLecturas_of_dentro (accesosIo_dentro tamanio.toNat ram.tabla dirFisica tamanio)
  exact ⟨datos, hdatos, leerTramos_servir _ hcortes (Prod.ext rfl hcompleta) hdatos⟩

theorem memoryIoEscribir_servir {ram : Ram} (hcortes : ram.cortes = []) {dirFisica tamanio : UInt32}
    (datos : List UInt8) (hcompleta : (accesos ram.tabla dirFisica tamanio).2 = true) :
    memoryIoEscribir ram dirFisica tamanio datos = (.ok (), { ram with
      tabla := servirEscrituras ram.tabla (accesos ram.tabla dirFisica tamanio).1 datos }) :=
  escribirTramos_servir _ hcortes _ (Prod.ext rfl hcompleta)

/-- Inside RAM every address has a stick. -/
theorem Ram.Sana.accesosIo_completa {ram : Ram} (h : ram.Sana) (pasos : ℕ) {dirAct restante : UInt32}
    (hdentro : dirAct.toNat + restante.toNat ≤ ram.total) :
    (accesosIo pasos ram.tabla dirAct restante).2 = true := by
  induction pasos generalizing dirAct restante with
  | zero => rfl
  | succ pasos ih =>
    unfold accesosIo
    split
    · rfl
    · rename_i hrestante
      obtain ⟨idx, stick, chunk, ht⟩ := h.tramo hrestante hdentro
      have htotal := ram.total_lt
      have hle := ht.le_restante
      have hdir : (dirAct + chunk).toNat = dirAct.toNat + chunk.toNat := toNat_add_of_lt (by omega)
      have hresto : (restante - chunk).toNat = restante.toNat - chunk.toNat := toNat_sub_of_le hle
      have hacceso : siguienteAcceso ram.tabla dirAct restante =
          some ⟨idx, dirAct - stick.baseFisica, chunk⟩ := by
        simp only [siguienteAcceso, ht.busca, ht.esta, ht.largo]
      have hsigue : (accesosIo pasos ram.tabla (dirAct + chunk) (restante - chunk)).2 = true :=
        ih (by omega)
      rw [hacceso]
      exact hsigue

theorem fin_le_sumaSticks {base : UInt32} {tabla : List MemoryStick}
    (hbases : BasesAcumuladas base tabla) (htotal : base.toNat + sumaSticks tabla < 2 ^ 32)
    {stick : MemoryStick} (hstick : stick ∈ tabla) :
    stick.baseFisica.toNat + stick.tamanio.toNat ≤ base.toNat + sumaSticks tabla := by
  induction tabla generalizing base with
  | nil => cases hstick
  | cons primero resto ih =>
    have hsuma : sumaSticks (primero :: resto) = primero.tamanio.toNat + sumaSticks resto := by
      simp [sumaSticks]
    obtain ⟨hbase, hresto⟩ := hbases
    cases hstick with
    | head =>
      rw [hbase]
      omega
    | tail _ hmem =>
      have hsiguiente : (base + primero.tamanio).toNat = base.toNat + primero.tamanio.toNat :=
        toNat_add_of_lt (by omega)
      have hih := ih hresto (by omega) hmem
      omega

/-- A range that the requests cover lies inside RAM. -/
theorem accesosIo_completa_le (pasos : ℕ) {tabla : List MemoryStick} {dirAct restante : UInt32}
    (hbases : BasesAcumuladas 0 tabla) (htotal : sumaSticks tabla < 2 ^ 32)
    (hpasos : restante.toNat ≤ pasos) (hrestante : restante ≠ 0)
    (h : (accesosIo pasos tabla dirAct restante).2 = true) :
    dirAct.toNat + restante.toNat ≤ sumaSticks tabla := by
  induction pasos generalizing dirAct restante with
  | zero => exact absurd (UInt32.toNat_inj.mp (Nat.le_zero.mp hpasos)) hrestante
  | succ pasos ih =>
    unfold accesosIo at h
    rw [if_neg hrestante] at h
    split at h
    · cases h
    · rename_i acceso hacceso
      obtain ⟨hpos, hle⟩ := siguienteAcceso_pos hacceso hrestante
      obtain ⟨_, stick, hget, hfin⟩ := siguienteAcceso_dentro hacceso
      have hstick : stick.baseFisica.toNat + stick.tamanio.toNat ≤
          (0 : UInt32).toNat + sumaSticks tabla :=
        fin_le_sumaSticks hbases (by simpa using htotal) (List.mem_of_getElem? hget)
      rw [UInt32.toNat_zero, Nat.zero_add] at hstick
      have hresto : (restante - acceso.bytes).toNat = restante.toNat - acceso.bytes.toNat :=
        toNat_sub_of_le hle
      by_cases hfalta : restante - acceso.bytes = 0
      · -- the last piece
        rw [hfalta, UInt32.toNat_zero] at hresto
        omega
      · have hdir : (dirAct + acceso.bytes).toNat = dirAct.toNat + acceso.bytes.toNat :=
          toNat_add_of_lt (by omega)
        have hih := ih (by omega) hfalta h
        omega

/-! ## One stick for each address -/

/-- Registered sticks lie one after the other. -/
theorem pairwise_of_basesAcumuladas {base : UInt32} {tabla : List MemoryStick}
    (hbases : BasesAcumuladas base tabla) (htotal : base.toNat + sumaSticks tabla < 2 ^ 32) :
    (∀ stick ∈ tabla, base.toNat ≤ stick.baseFisica.toNat) ∧
      tabla.Pairwise fun stick otro ↦
        stick.baseFisica.toNat + stick.tamanio.toNat ≤ otro.baseFisica.toNat := by
  induction tabla generalizing base with
  | nil => exact ⟨nofun, List.Pairwise.nil⟩
  | cons primero resto ih =>
    have hsuma : sumaSticks (primero :: resto) = primero.tamanio.toNat + sumaSticks resto := by
      simp [sumaSticks]
    obtain ⟨hbase, hresto⟩ := hbases
    have hsiguiente : (base + primero.tamanio).toNat = base.toNat + primero.tamanio.toNat :=
      toNat_add_of_lt (by omega)
    obtain ⟨hdesde, hpares⟩ := ih hresto (by omega)
    refine ⟨List.forall_mem_cons.mpr ⟨by rw [hbase], fun stick hstick ↦ ?_⟩,
      List.pairwise_cons.mpr ⟨fun stick hstick ↦ ?_, hpares⟩⟩
    · have := hdesde stick hstick
      omega
    · have := hdesde stick hstick
      rw [hbase]
      omega

section UnStick

variable {tabla : List MemoryStick} {idx : ℕ} {stick : MemoryStick} {address : ℕ}

/-- The sticks that begin after this one begin after its end. -/
theorem fin_le_base {otro : MemoryStick} {posterior : ℕ} (hbases : BasesAcumuladas 0 tabla)
    (htotal : sumaSticks tabla < 2 ^ 32) (hget : tabla[idx]? = some stick)
    (hotro : tabla[posterior]? = some otro) (hlt : idx < posterior) :
    stick.baseFisica.toNat + stick.tamanio.toNat ≤ otro.baseFisica.toNat := by
  obtain ⟨_, hpares⟩ := pairwise_of_basesAcumuladas hbases (by simpa using htotal)
  obtain ⟨hidx, rfl⟩ := List.getElem?_eq_some_iff.mp hget
  obtain ⟨hposterior, rfl⟩ := List.getElem?_eq_some_iff.mp hotro
  exact List.pairwise_iff_getElem.mp hpares idx posterior hidx hposterior hlt

theorem ubicar_of_cubre (hbases : BasesAcumuladas 0 tabla) (htotal : sumaSticks tabla < 2 ^ 32)
    (hget : tabla[idx]? = some stick) (hcubre : stick.Cubre address) :
    ubicar tabla address = some idx := by
  cases hubicar : ubicar tabla address with
  | none =>
    have hno := List.findIdx?_eq_none_iff.mp hubicar stick (List.mem_of_getElem? hget)
    rw [decide_eq_false_iff_not] at hno
    exact absurd hcubre hno
  | some otroIdx =>
    obtain ⟨otro, hotro, hcubreOtro⟩ := cubre_of_ubicar hubicar
    have hrango : ∀ s : MemoryStick, s ∈ tabla →
        (s.baseFisica + s.tamanio).toNat = s.baseFisica.toNat + s.tamanio.toNat := by
      intro s hs
      have hfin := fin_le_sumaSticks hbases (by simpa using htotal) hs
      rw [UInt32.toNat_zero] at hfin
      exact toNat_add_of_lt (by omega)
    have hfin := hcubre.2.2
    have hfinOtro := hcubreOtro.2.2
    rw [hrango _ (List.mem_of_getElem? hget)] at hfin
    rw [hrango _ (List.mem_of_getElem? hotro)] at hfinOtro
    rcases Nat.lt_trichotomy otroIdx idx with hlt | heq | hgt
    · have hle := fin_le_base hbases htotal hotro hget hlt
      have hbase := hcubre.2.1
      omega
    · rw [heq]
    · have hle := fin_le_base hbases htotal hget hotro hgt
      have hbase := hcubreOtro.2.1
      omega

end UnStick

/-- The requests of a transfer go to ever later sticks, so there are no more of them than sticks. -/
theorem accesosIo_pairwise (pasos : ℕ) {tabla : List MemoryStick} (hbases : BasesAcumuladas 0 tabla)
    (htotal : sumaSticks tabla < 2 ^ 32) {dirAct restante : UInt32}
    (hpasos : restante.toNat ≤ pasos) :
    (accesosIo pasos tabla dirAct restante).1.Pairwise (fun acceso otro ↦ acceso.stick < otro.stick) ∧
      ∀ acceso ∈ (accesosIo pasos tabla dirAct restante).1, ∀ idx stick, tabla[idx]? = some stick →
        stick.baseFisica.toNat + stick.tamanio.toNat ≤ dirAct.toNat → idx < acceso.stick := by
  induction pasos generalizing dirAct restante with
  | zero => exact ⟨List.Pairwise.nil, nofun⟩
  | succ pasos ih =>
    unfold accesosIo
    split
    · exact ⟨List.Pairwise.nil, nofun⟩
    · rename_i hrestante
      split
      · exact ⟨List.Pairwise.nil, nofun⟩
      · rename_i acceso hacceso
        obtain ⟨hpos, hle⟩ := siguienteAcceso_pos hacceso hrestante
        obtain ⟨stick, hbusca, hget, hlocal, hbytes⟩ := siguienteAcceso_eq_some hacceso
        obtain ⟨hresta, hdentro, hrango⟩ := (sirve_of_buscar hbusca hget).resta
        have hresto : (restante - acceso.bytes).toNat = restante.toNat - acceso.bytes.toNat :=
          toNat_sub_of_le hle
        have hbase : stick.baseFisica.toNat ≤ dirAct.toNat :=
          UInt32.le_iff_toNat_le.mp (sirve_of_buscar hbusca hget).2.1
        -- a stick that ends before the address comes before the one that serves it
        have hantes : ∀ idx s, tabla[idx]? = some s →
            s.baseFisica.toNat + s.tamanio.toNat ≤ dirAct.toNat → idx < acceso.stick := by
          intro idx s hs hfin
          by_contra hno
          rcases Nat.lt_or_eq_of_le (Nat.le_of_not_lt hno) with hlt | heq
          · have := fin_le_base hbases htotal hget hs hlt
            omega
          · rw [heq] at hget
            obtain rfl := Option.some.inj (hget.symm.trans hs)
            omega
        by_cases hfalta : restante - acceso.bytes = 0
        · have hvacia : (accesosIo pasos tabla (dirAct + acceso.bytes) (restante - acceso.bytes)).1 =
              [] := by
            cases pasos with
            | zero => rfl
            | succ pasos =>
              unfold accesosIo
              rw [if_pos hfalta]
          simp only [hvacia]
          refine ⟨List.pairwise_singleton _ _, fun otro hotro ↦ ?_⟩
          rw [List.mem_singleton.mp hotro]
          exact hantes
        · -- a piece that is not the last one ends where its stick ends
          have hllena : acceso.bytes = stick.tamanio - acceso.localOffset := by
            rw [hbytes]
            split
            · rename_i hgt
              rw [hbytes, if_pos hgt, UInt32.sub_self] at hfalta
              exact absurd rfl hfalta
            · rfl
          have hdir : (dirAct + acceso.bytes).toNat =
              stick.baseFisica.toNat + stick.tamanio.toNat := by
            rw [hllena, hlocal, toNat_add_of_lt (by omega), hresta]
            omega
          obtain ⟨hpares, hmayores⟩ := @ih (dirAct + acceso.bytes)
            (restante - acceso.bytes) (by omega)
          refine ⟨List.pairwise_cons.mpr ⟨fun otro hotro ↦ ?_, hpares⟩,
            List.forall_mem_cons.mpr ⟨hantes, fun otro hotro idx s hs hfin ↦ ?_⟩⟩
          · exact hmayores otro hotro acceso.stick stick hget (by omega)
          · exact hmayores otro hotro idx s hs (by omega)

theorem length_accesos_le {tabla : List MemoryStick} (hbases : BasesAcumuladas 0 tabla)
    (htotal : sumaSticks tabla < 2 ^ 32) (dirFisica tamanio : UInt32) :
    (accesos tabla dirFisica tamanio).1.length ≤ tabla.length := by
  have hnodup : ((accesos tabla dirFisica tamanio).1.map Acceso.stick).Nodup := by
    rw [List.Nodup, List.pairwise_map]
    exact (accesosIo_pairwise _ hbases htotal le_rfl).1.imp fun hlt ↦ Nat.ne_of_lt hlt
  have hsub : (accesos tabla dirFisica tamanio).1.map Acceso.stick ⊆ List.range tabla.length := by
    intro idx hidx
    obtain ⟨acceso, hacceso, rfl⟩ := List.mem_map.mp hidx
    obtain ⟨stick, hget, _⟩ := accesosIo_dentro _ _ _ _ acceso hacceso
    exact List.mem_range.mpr (List.getElem?_eq_some_iff.mp hget).1
  have hle := (List.subperm_of_subset hnodup hsub).length_le
  rwa [List.length_map, List.length_range] at hle

/-! ## When a read goes through -/

/-- None of the next requests meets a broken connection. -/
def Ram.SinCortes (ram : Ram) (pedidos : ℕ) : Prop := ∀ corte ∈ ram.cortes.take pedidos, corte = false

instance (ram : Ram) (pedidos : ℕ) : Decidable (ram.SinCortes pedidos) :=
  inferInstanceAs (Decidable (∀ _ ∈ _, _))

theorem Ram.sinCortes_succ (ram : Ram) (pedidos : ℕ) :
    ram.SinCortes (pedidos + 1) ↔
      ram.siguienteCorte.1 = false ∧ ram.siguienteCorte.2.SinCortes pedidos := by
  unfold SinCortes siguienteCorte
  cases hcortes : ram.cortes with
  | nil => simp [hcortes]
  | cons corte resto => simp [List.take_succ_cons]

/-- A read goes through exactly when a stick serves every address of the range and none of its requests
meets a broken connection; it has as many bytes as it was asked for. -/
theorem leerTramos_iff (pasos : ℕ) {ram : Ram} {dirAct restante : UInt32} (hpasos : restante.toNat ≤ pasos) :
    ((∃ datos, (leerTramos pasos ram dirAct restante).1 = .ok datos) ↔
      (accesosIo pasos ram.tabla dirAct restante).2 = true ∧
        ram.SinCortes (accesosIo pasos ram.tabla dirAct restante).1.length) ∧
    ∀ datos, (leerTramos pasos ram dirAct restante).1 = .ok datos → datos.length = restante.toNat := by
  induction pasos generalizing ram dirAct restante with
  | zero =>
    have hcero : restante.toNat = 0 := Nat.le_zero.mp hpasos
    simp [leerTramos, accesosIo, Ram.SinCortes, hcero]
  | succ pasos ih =>
    by_cases hcero : restante = 0
    · subst hcero
      simp [leerTramos, accesosIo, Ram.SinCortes]
    · cases hacceso : siguienteAcceso ram.tabla dirAct restante with
      | none =>
        have hfalla : (accesosIo (pasos + 1) ram.tabla dirAct restante).2 = false := by
          simp only [accesosIo, if_neg hcero, hacceso]
        simp [leerTramos_sinStick pasos hcero hacceso, hfalla]
      | some acceso =>
        obtain ⟨stick, hbusca, hget, hlocal, hbytes⟩ := siguienteAcceso_eq_some hacceso
        obtain ⟨datos, hdatos, hlargo⟩ := manejarLectura_of_acceso hacceso hget
        obtain ⟨hpos, hle⟩ := siguienteAcceso_pos hacceso hcero
        have hresto : (restante - acceso.bytes).toNat = restante.toNat - acceso.bytes.toNat :=
          toNat_sub_of_le hle
        have hlista : accesosIo (pasos + 1) ram.tabla dirAct restante =
            (acceso :: (accesosIo pasos ram.tabla (dirAct + acceso.bytes) (restante - acceso.bytes)).1,
              (accesosIo pasos ram.tabla (dirAct + acceso.bytes) (restante - acceso.bytes)).2) := by
          simp only [accesosIo, if_neg hcero, hacceso]
        rw [hlista, List.length_cons, Ram.sinCortes_succ]
        have htabla := ram.tabla_siguienteCorte
        rcases hcorte : ram.siguienteCorte with ⟨corte, despues⟩
        rw [hcorte] at htabla
        have hunfold : (leerTramos (pasos + 1) ram dirAct restante).1 =
            if corte = true then .error .desconectado
            else (leerTramos pasos despues (dirAct + acceso.bytes) (restante - acceso.bytes)).1.map
              (datos ++ ·) := by
          rw [leerTramos, if_neg hcero]
          simp only [hbusca, hget, hcorte, ← hlocal, ← hbytes]
          cases corte with
          | true => rfl
          | false =>
            simp only [hdatos, Bool.false_eq_true, if_false]
            rcases leerTramos pasos despues (dirAct + acceso.bytes) (restante - acceso.bytes) with
              ⟨leido, _⟩
            cases leido <;> rfl
        rw [hunfold]
        cases corte with
        | true => simp
        | false =>
          obtain ⟨hiff, hlargos⟩ := @ih despues (dirAct + acceso.bytes)
            (restante - acceso.bytes) (by omega)
          rw [show despues.tabla = ram.tabla from htabla] at hiff
          cases hleido : (leerTramos pasos despues (dirAct + acceso.bytes) (restante - acceso.bytes)).1 with
          | error fallo =>
            rw [hleido] at hiff
            simp only [reduceCtorEq, exists_false, false_iff] at hiff
            simp [Except.map, hiff]
          | ok resto =>
            rw [hleido] at hiff
            have hresto' := hlargos resto hleido
            have hya := hiff.mp ⟨resto, rfl⟩
            simp only [Bool.false_eq_true, if_false, Except.map, Except.ok.injEq, exists_eq', true_iff,
              true_and]
            refine ⟨hya, fun leidos hleidos ↦ ?_⟩
            rw [← hleidos, List.length_append, hlargo, hresto', hresto]
            omega

theorem memoryIoLeer_iff (ram : Ram) (dirFisica tamanio : UInt32) :
    (∃ datos, (memoryIoLeer ram dirFisica tamanio).1 = .ok datos) ↔
      (accesos ram.tabla dirFisica tamanio).2 = true ∧
        ram.SinCortes (accesos ram.tabla dirFisica tamanio).1.length :=
  (leerTramos_iff _ le_rfl).1

theorem length_memoryIoLeer {ram : Ram} {dirFisica tamanio : UInt32} {datos : List UInt8}
    (h : (memoryIoLeer ram dirFisica tamanio).1 = .ok datos) : datos.length = tamanio.toNat :=
  (leerTramos_iff _ le_rfl).2 datos h

end PlugAndPlay.Memoria
