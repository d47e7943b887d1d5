import InputDeck.Variable

/-!
# Variables of release 16.2
-/

namespace InputDeck.Catalog

def release162 : List Variable := [
  { name := "BoxShape"
    kind := .integer
    defaults := ["minimum"]
    sectionName := "Mesh::Simulation Box"
    description := ["This variable decides the shape of the simulation box."]
    options := [⟨"sphere", "1"⟩, ⟨"cylinder", "2"⟩, ⟨"minimum", "3"⟩, ⟨"parallelepiped", "4"⟩,
      ⟨"box_image", "5"⟩, ⟨"user_defined", "123"⟩]
    link := none },
  { name := "CalculationMode"
    kind := .integer
    defaults := ["gs"]
    sectionName := "Calculation Modes"
    description := ["Decides what kind of calculation is to be performed."]
    options := [⟨"gs", "1"⟩, ⟨"unocc", "2"⟩, ⟨"td", "3"⟩, ⟨"go", "5"⟩, ⟨"opt_control", "7"⟩,
      ⟨"em_resp", "8"⟩, ⟨"casida", "9"⟩, ⟨"vdw", "11"⟩, ⟨"vib_modes", "12"⟩, ⟨"kdotp", "15"⟩,
      ⟨"invert_ks", "18"⟩, ⟨"recipe", "99"⟩]
    link := none },
  { name := "ConvEnergy"
    kind := .float
    defaults := ["0.0"]
    sectionName := "SCF::Convergence"
    description :=
      ["Stop the SCF when the magnitude of change in energy during at one SCF iteration is " ++
         "smaller than this value."]
    options := []
    link := none },
  { name := "ConvRelDens"
    kind := .float
    defaults := ["1e-6"]
    sectionName := "SCF::Convergence"
    description := ["Relative convergence of the density."]
    options := []
    link := none },
  { name := "Coordinates"
    kind := .block
    defaults := []
    sectionName := "System::Coordinates"
    description :=
      ["If XYZCoordinates, PDBCoordinates, and XSFCoordinates were not found, Octopus tries " ++
         "to read the coordinates from this block."]
    options := []
    link := none },
  { name := "Debug"
    kind := .flag
    defaults := ["no"]
    sectionName := "Execution::Debug"
    description :=
      ["This variable controls the amount of debugging information generated by Octopus."]
    options := [⟨"info", "1"⟩, ⟨"trace", "2"⟩, ⟨"trace_term", "4"⟩, ⟨"trace_file", "8"⟩,
      ⟨"extra_checks", "16"⟩]
    link := none },
  { name := "Dimensions"
    kind := .integer
    defaults := ["3"]
    sectionName := "System"
    description := ["Octopus can run in 1, 2 or 3 dimensions."]
    options := []
    link := none },
  { name := "EigenSolver"
    kind := .integer
    defaults := ["cg"]
    sectionName := "SCF::Eigensolver"
    description :=
      ["Which eigensolver to use to obtain the lowest eigenvalues and eigenfunctions of the " ++
         "Kohn-Sham Hamiltonian."]
    options := [⟨"cg", "5"⟩, ⟨"plan", "11"⟩, ⟨"evolution", "9"⟩, ⟨"rmmdiis", "10"⟩,
      ⟨"chebyshev_filter", "12"⟩, ⟨"lobpcg", "8"⟩]
    link := none },
  { name := "ExcessCharge"
    kind := .float
    defaults := ["0.0"]
    sectionName := "States"
    description := ["The net charge of the system."]
    options := []
    link := none },
  { name := "ExtraStates"
    kind := .integer
    defaults := ["0"]
    sectionName := "States"
    description :=
      ["The number of states is in principle calculated considering the minimum numbers of " ++
         "states necessary to hold the electrons present in the system."]
    options := []
    link := none },
  { name := "FromScratch"
    kind := .logical
    defaults := ["false"]
    sectionName := "Execution"
    description :=
      ["When this variable is set to true, Octopus will perform a calculation from the " ++
         "beginning, without looking for restart information."]
    options := []
    link := none },
  { name := "KPointsGrid"
    kind := .block
    defaults := ["Gamma-point only"]
    sectionName := "Mesh::KPoints"
    description := ["When this block is given the k-points are generated on an equispaced grid."]
    options := []
    link := none },
  { name := "Lsize"
    kind := .block
    defaults := []
    sectionName := "Mesh::Simulation Box"
    description :=
      ["In case BoxShape is parallelepiped, this is assumed to be half of the lengths of the box."]
    options := []
    link := none },
  { name := "MaximumIter"
    kind := .integer
    defaults := ["200"]
    sectionName := "SCF"
    description := ["Maximum number of SCF iterations."]
    options := []
    link := none },
  { name := "MaxwellTDOutput"
    kind := .flag
    defaults := ["maxwell_energy"]
    sectionName := "Maxwell::Output"
    description := ["Defines what should be output during the time-dependent Maxwell simulation."]
    options := [⟨"maxwell_energy", "1"⟩, ⟨"maxwell_total_e_field", "2"⟩,
      ⟨"maxwell_e_field_surface_x", "64"⟩]
    link := none },
  { name := "Mixing"
    kind := .float
    defaults := ["0.3"]
    sectionName := "SCF::Mixing"
    description := ["The mixing coefficient used in the linear, Broyden and DIIS mixing schemes."]
    options := []
    link := none },
  { name := "MixingScheme"
    kind := .integer
    defaults := ["broyden"]
    sectionName := "SCF::Mixing"
    description :=
      ["The scheme used to produce, at each iteration in the self-consistent cycle that " ++
         "attempts to solve the Kohn-Sham equations, the input density from the value of the " ++
         "input and output densities of previous iterations."]
    options := [⟨"linear", "0"⟩, ⟨"broyden", "2"⟩, ⟨"diis", "9"⟩]
    link := none },
  { name := "Output"
    kind := .block
    defaults := ["none"]
    sectionName := "Output"
    description :=
      ["Specifies what to print.",
       "Each line of the block selects one quantity and optional output parameters."]
    options := []
    link := none },
  { name := "OutputFormat"
    kind := .flag
    defaults := ["0"]
    sectionName := "Output"
    description := ["Describes the format of the output files."]
    options := [⟨"axis_x", "1"⟩, ⟨"axis_y", "2"⟩, ⟨"axis_z", "4"⟩, ⟨"plane_x", "8"⟩,
      ⟨"plane_y", "16"⟩, ⟨"plane_z", "32"⟩, ⟨"dx", "64"⟩, ⟨"netcdf", "128"⟩,
      ⟨"mesh_index", "512"⟩, ⟨"xcrysden", "1024"⟩, ⟨"matlab", "2048"⟩, ⟨"cube", "32768"⟩,
      ⟨"vtk", "262144"⟩]
    link := none },
  { name := "PeriodicDimensions"
    kind := .integer
    defaults := ["0"]
    sectionName := "System"
    description := ["Define how many directions are to be considered periodic."]
    options := []
    link := none },
  { name := "PseudopotentialSet"
    kind := .integer
    defaults := ["standard"]
    sectionName := "System::Species"
    description :=
      ["Selects the set of pseudopotentials used by default for atoms not defined in the " ++
         "Species block."]
    options := [⟨"standard", "1"⟩, ⟨"sg15", "2"⟩, ⟨"hgh_lda", "3"⟩, ⟨"hgh_lda_sc", "31"⟩,
      ⟨"hscv_lda", "4"⟩, ⟨"hscv_pbe", "5"⟩, ⟨"pseudodojo_lda", "100"⟩, ⟨"pseudodojo_pbe", "101"⟩,
      ⟨"none", "0"⟩, ⟨"pseudodojo_pbesol", "102"⟩, ⟨"pseudodojo_lda_fr", "110"⟩,
      ⟨"pseudodojo_pbe_fr", "111"⟩]
    link := none },
  { name := "Radius"
    kind := .float
    defaults := []
    sectionName := "Mesh::Simulation Box"
    description := ["Defines the radius for BoxShape = sphere, cylinder, or minimum."]
    options := []
    link := none },
  { name := "RestartOptions"
    kind := .block
    defaults := []
    sectionName := "Execution::IO"
    description :=
      ["Octopus usually stores binary information, such as the wavefunctions, to be used in " ++
         "subsequent calculations."]
    options := []
    link := none },
  { name := "SCFCalculateForces"
    kind := .logical
    defaults := []
    sectionName := "SCF"
    description :=
      ["This variable controls whether the forces on the ions are calculated at the end of a " ++
         "self-consistent iteration."]
    options := []
    link := none },
  { name := "Smearing"
    kind := .float
    defaults := ["0.1 eV"]
    sectionName := "States"
    description :=
      ["If Occupations is not set, Smearing is the smearing width used in the " ++
         "SmearingFunction to distribute the electrons among the existing states."]
    options := []
    link := none },
  { name := "SmearingFunction"
    kind := .integer
    defaults := ["semiconducting"]
    sectionName := "States"
    description := ["This is the function used to smear the electronic occupations."]
    options := [⟨"semiconducting", "1"⟩, ⟨"fermi_dirac", "2"⟩, ⟨"cold_smearing", "3"⟩,
      ⟨"methfessel_paxton", "4"⟩, ⟨"spline_smearing", "5"⟩]
    link := none },
  { name := "Spacing"
    kind := .float
    defaults := ["0.4"]
    sectionName := "Mesh"
    description :=
      ["The spacing between the points in the mesh.",
       "This is a very important variable; it determines the accuracy of the calculation."]
    options := []
    link := none },
  { name := "Species"
    kind := .block
    defaults := []
    sectionName := "System::Species"
    description :=
      ["A species is by definition either an atom or something that behaves as an atom."]
    options := []
    link := none },
  { name := "SpinComponents"
    kind := .integer
    defaults := ["unpolarized"]
    sectionName := "States"
    description := ["The calculations may be done in three different ways."]
    options := [⟨"unpolarized", "1"⟩, ⟨"spin_polarized", "2"⟩, ⟨"polarized", "2"⟩,
      ⟨"spinors", "3"⟩]
    link := none },
  { name := "StatesPack"
    kind := .logical
    defaults := []
    sectionName := "Execution::Optimization"
    description :=
      ["When set to yes, states are stored in packed mode, which improves performance " ++
         "considerably."]
    options := []
    link := none },
  { name := "TDDeltaStrength"
    kind := .float
    defaults := ["0"]
    sectionName := "Time-Dependent::Response"
    description :=
      ["When no laser is applied, a delta (in time) perturbation with strength " ++
         "TDDeltaStrength can be applied."]
    options := []
    link := none },
  { name := "TDExternalFields"
    kind := .block
    defaults := []
    sectionName := "Time-Dependent"
    description :=
      ["The block TDExternalFields describes the type and shape of time-dependent external " ++
         "perturbations that are applied to the system."]
    options := []
    link := none },
  { name := "TDMaxSteps"
    kind := .integer
    defaults := ["1500"]
    sectionName := "Time-Dependent::Propagation"
    description := ["Number of time-propagation steps that will be performed."]
    options := []
    link := none },
  { name := "TDOutput"
    kind := .flag
    defaults := ["multipoles + energy"]
    sectionName := "Time-Dependent::TD Output"
    description := ["Defines what should be output during the time-dependent simulation."]
    options := [⟨"multipoles", "1"⟩, ⟨"angular", "2"⟩, ⟨"spin", "4"⟩, ⟨"populations", "8"⟩,
      ⟨"geometry", "16"⟩, ⟨"dipole_acceleration", "32"⟩, ⟨"laser", "64"⟩, ⟨"energy", "128"⟩,
      ⟨"td_occup", "256"⟩, ⟨"local_mag_moments", "512"⟩, ⟨"gauge_field", "1024"⟩,
      ⟨"temperature", "2048"⟩, ⟨"ftchd", "4096"⟩, ⟨"dipole_velocity", "8192"⟩]
    link := none },
  { name := "TDPolarization"
    kind := .block
    defaults := []
    sectionName := "Time-Dependent::Response::Dipole"
    description := ["The (real) polarization of the delta electric field."]
    options := []
    link := none },
  { name := "TDPropagationTime"
    kind := .float
    defaults := []
    sectionName := "Time-Dependent::Propagation"
    description := ["The length of the time propagation."]
    options := []
    link := none },
  { name := "TDPropagator"
    kind := .integer
    defaults := ["etrs"]
    sectionName := "Time-Dependent::Propagation"
    description :=
      ["This variable determines which algorithm will be used to approximate the evolution " ++
         "operator."]
    options := [⟨"etrs", "2"⟩, ⟨"aetrs", "3"⟩, ⟨"exp_mid", "4"⟩, ⟨"crank_nicolson", "5"⟩,
      ⟨"runge_kutta4", "6"⟩, ⟨"runge_kutta2", "7"⟩, ⟨"magnus", "8"⟩, ⟨"caetrs", "12"⟩]
    link := none },
  { name := "TDTimeStep"
    kind := .float
    defaults := []
    sectionName := "Time-Dependent::Propagation"
    description := ["The time-step for the time propagation."]
    options := []
    link := some ("https://octopus-code.org/documentation/16/variables/" ++
      "time-dependent/propagation/tdtimestep/") },
  { name := "TheoryLevel"
    kind := .integer
    defaults := ["kohn_sham"]
    sectionName := "Hamiltonian"
    description := ["The calculations can be run with different theory levels."]
    options := [⟨"independent_particles", "2"⟩, ⟨"hartree", "1"⟩, ⟨"hartree_fock", "3"⟩,
      ⟨"kohn_sham", "4"⟩, ⟨"generalized_kohn_sham", "5"⟩, ⟨"rdmft", "7"⟩, ⟨"dft_u", "6"⟩]
    link := none },
  { name := "Units"
    kind := .other "virtual"
    defaults := ["atomic"]
    sectionName := "Execution::Units"
    description := ["If UnitsOutput is not present, this variable is used to set its value."]
    options := [⟨"atomic", "0"⟩, ⟨"ev_angstrom", "1"⟩]
    link := none },
  { name := "UnitsOutput"
    kind := .integer
    defaults := ["atomic"]
    sectionName := "Execution::Units"
    description := ["This variable selects the units that Octopus use for output."]
    options := [⟨"atomic", "0"⟩, ⟨"ev_angstrom", "1"⟩]
    link := none },
  { name := "WorkDir"
    kind := .string
    defaults := ["."]
    sectionName := "Execution::IO"
    description := ["By default, all files are written and read from the working directory."]
    options := []
    link := none },
  { name := "XCFunctional"
    kind := .integer
    defaults := ["lda_x+lda_c_pz_mod"]
    sectionName := "Hamiltonian::XC"
    description :=
      ["Defines the exchange and correlation functionals to be used,",
       "specified as a sum of an exchange and a correlation term."]
    options := [⟨"none", "0"⟩, ⟨"lda_x", "1"⟩, ⟨"lda_c_wigner", "2000"⟩, ⟨"lda_c_rpa", "3000"⟩,
      ⟨"lda_c_hl", "4000"⟩, ⟨"lda_c_gl", "5000"⟩, ⟨"lda_c_xalpha", "6000"⟩, ⟨"lda_c_vwn", "7000"⟩,
      ⟨"lda_c_vwn_rpa", "8000"⟩, ⟨"lda_c_pz", "9000"⟩, ⟨"lda_c_pz_mod", "10000"⟩,
      ⟨"lda_c_ob_pz", "11000"⟩, ⟨"lda_c_pw", "12000"⟩, ⟨"gga_x_pbe", "101"⟩,
      ⟨"gga_c_pbe", "130000"⟩, ⟨"gga_x_b88", "106"⟩, ⟨"gga_c_lyp", "131000"⟩,
      ⟨"hyb_gga_xc_b3lyp", "402"⟩, ⟨"hyb_gga_xc_pbeh", "406"⟩, ⟨"oep_x", "901"⟩]
    link := none }]

end InputDeck.Catalog
