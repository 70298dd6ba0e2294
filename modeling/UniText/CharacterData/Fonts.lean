/-! Compatibility mappings of letters and digits that stand for others in a certain style. -/

namespace UniText.CharacterData

/-- Each row holds a character and the one that it is a font variant of. -/
def fontRows : String := "
  2102 0043; 210A 0067; 210B 0048; 210C 0048; 210D 0048; 210E 0068; 210F 0127; 2110 0049;
  2111 0049; 2112 004C; 2113 006C; 2115 004E; 2119 0050; 211A 0051; 211B 0052; 211C 0052;
  211D 0052; 2124 005A; 2128 005A; 212C 0042; 212D 0043; 212F 0065; 2130 0045; 2131 0046;
  2133 004D; 2134 006F; 2139 0069; 213C 03C0; 213D 03B3; 213E 0393; 213F 03A0; 2140 2211;
  2145 0044; 2146 0064; 2147 0065; 2148 0069; 2149 006A; FB20 05E2; FB21 05D0; FB22 05D3;
  FB23 05D4; FB24 05DB; FB25 05DC; FB26 05DD; FB27 05E8; FB28 05EA; FB29 002B; 1D400 0041;
  1D401 0042; 1D402 0043; 1D403 0044; 1D404 0045; 1D405 0046; 1D406 0047; 1D407 0048; 1D408 0049;
  1D409 004A; 1D40A 004B; 1D40B 004C; 1D40C 004D; 1D40D 004E; 1D40E 004F; 1D40F 0050; 1D410 0051;
  1D411 0052; 1D412 0053; 1D413 0054; 1D414 0055; 1D415 0056; 1D416 0057; 1D417 0058; 1D418 0059;
  1D419 005A; 1D41A 0061; 1D41B 0062; 1D41C 0063; 1D41D 0064; 1D41E 0065; 1D41F 0066; 1D420 0067;
  1D421 0068; 1D422 0069; 1D423 006A; 1D424 006B; 1D425 006C; 1D426 006D; 1D427 006E; 1D428 006F;
  1D429 0070; 1D42A 0071; 1D42B 0072; 1D42C 0073; 1D42D 0074; 1D42E 0075; 1D42F 0076; 1D430 0077;
  1D431 0078; 1D432 0079; 1D433 007A; 1D434 0041; 1D435 0042; 1D436 0043; 1D437 0044; 1D438 0045;
  1D439 0046; 1D43A 0047; 1D43B 0048; 1D43C 0049; 1D43D 004A; 1D43E 004B; 1D43F 004C; 1D440 004D;
  1D441 004E; 1D442 004F; 1D443 0050; 1D444 0051; 1D445 0052; 1D446 0053; 1D447 0054; 1D448 0055;
  1D449 0056; 1D44A 0057; 1D44B 0058; 1D44C 0059; 1D44D 005A; 1D44E 0061; 1D44F 0062; 1D450 0063;
  1D451 0064; 1D452 0065; 1D453 0066; 1D454 0067; 1D456 0069; 1D457 006A; 1D458 006B; 1D459 006C;
  1D45A 006D; 1D45B 006E; 1D45C 006F; 1D45D 0070; 1D45E 0071; 1D45F 0072; 1D460 0073; 1D461 0074;
  1D462 0075; 1D463 0076; 1D464 0077; 1D465 0078; 1D466 0079; 1D467 007A; 1D468 0041; 1D469 0042;
  1D46A 0043; 1D46B 0044; 1D46C 0045; 1D46D 0046; 1D46E 0047; 1D46F 0048; 1D470 0049; 1D471 004A;
  1D472 004B; 1D473 004C; 1D474 004D; 1D475 004E; 1D476 004F; 1D477 0050; 1D478 0051; 1D479 0052;
  1D47A 0053; 1D47B 0054; 1D47C 0055; 1D47D 0056; 1D47E 0057; 1D47F 0058; 1D480 0059; 1D481 005A;
  1D482 0061; 1D483 0062; 1D484 0063; 1D485 0064; 1D486 0065; 1D487 0066; 1D488 0067; 1D489 0068;
  1D48A 0069; 1D48B 006A; 1D48C 006B; 1D48D 006C; 1D48E 006D; 1D48F 006E; 1D490 006F; 1D491 0070;
  1D492 0071; 1D493 0072; 1D494 0073; 1D495 0074; 1D496 0075; 1D497 0076; 1D498 0077; 1D499 0078;
  1D49A 0079; 1D49B 007A; 1D49C 0041; 1D49E 0043; 1D49F 0044; 1D4A2 0047; 1D4A5 004A; 1D4A6 004B;
  1D4A9 004E; 1D4AA 004F; 1D4AB 0050; 1D4AC 0051; 1D4AE 0053; 1D4AF 0054; 1D4B0 0055; 1D4B1 0056;
  1D4B2 0057; 1D4B3 0058; 1D4B4 0059; 1D4B5 005A; 1D4B6 0061; 1D4B7 0062; 1D4B8 0063; 1D4B9 0064;
  1D4BB 0066; 1D4BD 0068; 1D4BE 0069; 1D4BF 006A; 1D4C0 006B; 1D4C1 006C; 1D4C2 006D; 1D4C3 006E;
  1D4C5 0070; 1D4C6 0071; 1D4C7 0072; 1D4C8 0073; 1D4C9 0074; 1D4CA 0075; 1D4CB 0076; 1D4CC 0077;
  1D4CD 0078; 1D4CE 0079; 1D4CF 007A; 1D4D0 0041; 1D4D1 0042; 1D4D2 0043; 1D4D3 0044; 1D4D4 0045;
  1D4D5 0046; 1D4D6 0047; 1D4D7 0048; 1D4D8 0049; 1D4D9 004A; 1D4DA 004B; 1D4DB 004C; 1D4DC 004D;
  1D4DD 004E; 1D4DE 004F; 1D4DF 0050; 1D4E0 0051; 1D4E1 0052; 1D4E2 0053; 1D4E3 0054; 1D4E4 0055;
  1D4E5 0056; 1D4E6 0057; 1D4E7 0058; 1D4E8 0059; 1D4E9 005A; 1D4EA 0061; 1D4EB 0062; 1D4EC 0063;
  1D4ED 0064; 1D4EE 0065; 1D4EF 0066; 1D4F0 0067; 1D4F1 0068; 1D4F2 0069; 1D4F3 006A; 1D4F4 006B;
  1D4F5 006C; 1D4F6 006D; 1D4F7 006E; 1D4F8 006F; 1D4F9 0070; 1D4FA 0071; 1D4FB 0072; 1D4FC 0073;
  1D4FD 0074; 1D4FE 0075; 1D4FF 0076; 1D500 0077; 1D501 0078; 1D502 0079; 1D503 007A; 1D504 0041;
  1D505 0042; 1D507 0044; 1D508 0045; 1D509 0046; 1D50A 0047; 1D50D 004A; 1D50E 004B; 1D50F 004C;
  1D510 004D; 1D511 004E; 1D512 004F; 1D513 0050; 1D514 0051; 1D516 0053; 1D517 0054; 1D518 0055;
  1D519 0056; 1D51A 0057; 1D51B 0058; 1D51C 0059; 1D51E 0061; 1D51F 0062; 1D520 0063; 1D521 0064;
  1D522 0065; 1D523 0066; 1D524 0067; 1D525 0068; 1D526 0069; 1D527 006A; 1D528 006B; 1D529 006C;
  1D52A 006D; 1D52B 006E; 1D52C 006F; 1D52D 0070; 1D52E 0071; 1D52F 0072; 1D530 0073; 1D531 0074;
  1D532 0075; 1D533 0076; 1D534 0077; 1D535 0078; 1D536 0079; 1D537 007A; 1D538 0041; 1D539 0042;
  1D53B 0044; 1D53C 0045; 1D53D 0046; 1D53E 0047; 1D540 0049; 1D541 004A; 1D542 004B; 1D543 004C;
  1D544 004D; 1D546 004F; 1D54A 0053; 1D54B 0054; 1D54C 0055; 1D54D 0056; 1D54E 0057; 1D54F 0058;
  1D550 0059; 1D552 0061; 1D553 0062; 1D554 0063; 1D555 0064; 1D556 0065; 1D557 0066; 1D558 0067;
  1D559 0068; 1D55A 0069; 1D55B 006A; 1D55C 006B; 1D55D 006C; 1D55E 006D; 1D55F 006E; 1D560 006F;
  1D561 0070; 1D562 0071; 1D563 0072; 1D564 0073; 1D565 0074; 1D566 0075; 1D567 0076; 1D568 0077;
  1D569 0078; 1D56A 0079; 1D56B 007A; 1D56C 0041; 1D56D 0042; 1D56E 0043; 1D56F 0044; 1D570 0045;
  1D571 0046; 1D572 0047; 1D573 0048; 1D574 0049; 1D575 004A; 1D576 004B; 1D577 004C; 1D578 004D;
  1D579 004E; 1D57A 004F; 1D57B 0050; 1D57C 0051; 1D57D 0052; 1D57E 0053; 1D57F 0054; 1D580 0055;
  1D581 0056; 1D582 0057; 1D583 0058; 1D584 0059; 1D585 005A; 1D586 0061; 1D587 0062; 1D588 0063;
  1D589 0064; 1D58A 0065; 1D58B 0066; 1D58C 0067; 1D58D 0068; 1D58E 0069; 1D58F 006A; 1D590 006B;
  1D591 006C; 1D592 006D; 1D593 006E; 1D594 006F; 1D595 0070; 1D596 0071; 1D597 0072; 1D598 0073;
  1D599 0074; 1D59A 0075; 1D59B 0076; 1D59C 0077; 1D59D 0078; 1D59E 0079; 1D59F 007A; 1D5A0 0041;
  1D5A1 0042; 1D5A2 0043; 1D5A3 0044; 1D5A4 0045; 1D5A5 0046; 1D5A6 0047; 1D5A7 0048; 1D5A8 0049;
  1D5A9 004A; 1D5AA 004B; 1D5AB 004C; 1D5AC 004D; 1D5AD 004E; 1D5AE 004F; 1D5AF 0050; 1D5B0 0051;
  1D5B1 0052; 1D5B2 0053; 1D5B3 0054; 1D5B4 0055; 1D5B5 0056; 1D5B6 0057; 1D5B7 0058; 1D5B8 0059;
  1D5B9 005A; 1D5BA 0061; 1D5BB 0062; 1D5BC 0063; 1D5BD 0064; 1D5BE 0065; 1D5BF 0066; 1D5C0 0067;
  1D5C1 0068; 1D5C2 0069; 1D5C3 006A; 1D5C4 006B; 1D5C5 006C; 1D5C6 006D; 1D5C7 006E; 1D5C8 006F;
  1D5C9 0070; 1D5CA 0071; 1D5CB 0072; 1D5CC 0073; 1D5CD 0074; 1D5CE 0075; 1D5CF 0076; 1D5D0 0077;
  1D5D1 0078; 1D5D2 0079; 1D5D3 007A; 1D5D4 0041; 1D5D5 0042; 1D5D6 0043; 1D5D7 0044; 1D5D8 0045;
  1D5D9 0046; 1D5DA 0047; 1D5DB 0048; 1D5DC 0049; 1D5DD 004A; 1D5DE 004B; 1D5DF 004C; 1D5E0 004D;
  1D5E1 004E; 1D5E2 004F; 1D5E3 0050; 1D5E4 0051; 1D5E5 0052; 1D5E6 0053; 1D5E7 0054; 1D5E8 0055;
  1D5E9 0056; 1D5EA 0057; 1D5EB 0058; 1D5EC 0059; 1D5ED 005A; 1D5EE 0061; 1D5EF 0062; 1D5F0 0063;
  1D5F1 0064; 1D5F2 0065; 1D5F3 0066; 1D5F4 0067; 1D5F5 0068; 1D5F6 0069; 1D5F7 006A; 1D5F8 006B;
  1D5F9 006C; 1D5FA 006D; 1D5FB 006E; 1D5FC 006F; 1D5FD 0070; 1D5FE 0071; 1D5FF 0072; 1D600 0073;
  1D601 0074; 1D602 0075; 1D603 0076; 1D604 0077; 1D605 0078; 1D606 0079; 1D607 007A; 1D608 0041;
  1D609 0042; 1D60A 0043; 1D60B 0044; 1D60C 0045; 1D60D 0046; 1D60E 0047; 1D60F 0048; 1D610 0049;
  1D611 004A; 1D612 004B; 1D613 004C; 1D614 004D; 1D615 004E; 1D616 004F; 1D617 0050; 1D618 0051;
  1D619 0052; 1D61A 0053; 1D61B 0054; 1D61C 0055; 1D61D 0056; 1D61E 0057; 1D61F 0058; 1D620 0059;
  1D621 005A; 1D622 0061; 1D623 0062; 1D624 0063; 1D625 0064; 1D626 0065; 1D627 0066; 1D628 0067;
  1D629 0068; 1D62A 0069; 1D62B 006A; 1D62C 006B; 1D62D 006C; 1D62E 006D; 1D62F 006E; 1D630 006F;
  1D631 0070; 1D632 0071; 1D633 0072; 1D634 0073; 1D635 0074; 1D636 0075; 1D637 0076; 1D638 0077;
  1D639 0078; 1D63A 0079; 1D63B 007A; 1D63C 0041; 1D63D 0042; 1D63E 0043; 1D63F 0044; 1D640 0045;
  1D641 0046; 1D642 0047; 1D643 0048; 1D644 0049; 1D645 004A; 1D646 004B; 1D647 004C; 1D648 004D;
  1D649 004E; 1D64A 004F; 1D64B 0050; 1D64C 0051; 1D64D 0052; 1D64E 0053; 1D64F 0054; 1D650 0055;
  1D651 0056; 1D652 0057; 1D653 0058; 1D654 0059; 1D655 005A; 1D656 0061; 1D657 0062; 1D658 0063;
  1D659 0064; 1D65A 0065; 1D65B 0066; 1D65C 0067; 1D65D 0068; 1D65E 0069; 1D65F 006A; 1D660 006B;
  1D661 006C; 1D662 006D; 1D663 006E; 1D664 006F; 1D665 0070; 1D666 0071; 1D667 0072; 1D668 0073;
  1D669 0074; 1D66A 0075; 1D66B 0076; 1D66C 0077; 1D66D 0078; 1D66E 0079; 1D66F 007A; 1D670 0041;
  1D671 0042; 1D672 0043; 1D673 0044; 1D674 0045; 1D675 0046; 1D676 0047; 1D677 0048; 1D678 0049;
  1D679 004A; 1D67A 004B; 1D67B 004C; 1D67C 004D; 1D67D 004E; 1D67E 004F; 1D67F 0050; 1D680 0051;
  1D681 0052; 1D682 0053; 1D683 0054; 1D684 0055; 1D685 0056; 1D686 0057; 1D687 0058; 1D688 0059;
  1D689 005A; 1D68A 0061; 1D68B 0062; 1D68C 0063; 1D68D 0064; 1D68E 0065; 1D68F 0066; 1D690 0067;
  1D691 0068; 1D692 0069; 1D693 006A; 1D694 006B; 1D695 006C; 1D696 006D; 1D697 006E; 1D698 006F;
  1D699 0070; 1D69A 0071; 1D69B 0072; 1D69C 0073; 1D69D 0074; 1D69E 0075; 1D69F 0076; 1D6A0 0077;
  1D6A1 0078; 1D6A2 0079; 1D6A3 007A; 1D6A4 0131; 1D6A5 0237; 1D6A8 0391; 1D6A9 0392; 1D6AA 0393;
  1D6AB 0394; 1D6AC 0395; 1D6AD 0396; 1D6AE 0397; 1D6AF 0398; 1D6B0 0399; 1D6B1 039A; 1D6B2 039B;
  1D6B3 039C; 1D6B4 039D; 1D6B5 039E; 1D6B6 039F; 1D6B7 03A0; 1D6B8 03A1; 1D6B9 03F4; 1D6BA 03A3;
  1D6BB 03A4; 1D6BC 03A5; 1D6BD 03A6; 1D6BE 03A7; 1D6BF 03A8; 1D6C0 03A9; 1D6C1 2207; 1D6C2 03B1;
  1D6C3 03B2; 1D6C4 03B3; 1D6C5 03B4; 1D6C6 03B5; 1D6C7 03B6; 1D6C8 03B7; 1D6C9 03B8; 1D6CA 03B9;
  1D6CB 03BA; 1D6CC 03BB; 1D6CD 03BC; 1D6CE 03BD; 1D6CF 03BE; 1D6D0 03BF; 1D6D1 03C0; 1D6D2 03C1;
  1D6D3 03C2; 1D6D4 03C3; 1D6D5 03C4; 1D6D6 03C5; 1D6D7 03C6; 1D6D8 03C7; 1D6D9 03C8; 1D6DA 03C9;
  1D6DB 2202; 1D6DC 03F5; 1D6DD 03D1; 1D6DE 03F0; 1D6DF 03D5; 1D6E0 03F1; 1D6E1 03D6; 1D6E2 0391;
  1D6E3 0392; 1D6E4 0393; 1D6E5 0394; 1D6E6 0395; 1D6E7 0396; 1D6E8 0397; 1D6E9 0398; 1D6EA 0399;
  1D6EB 039A; 1D6EC 039B; 1D6ED 039C; 1D6EE 039D; 1D6EF 039E; 1D6F0 039F; 1D6F1 03A0; 1D6F2 03A1;
  1D6F3 03F4; 1D6F4 03A3; 1D6F5 03A4; 1D6F6 03A5; 1D6F7 03A6; 1D6F8 03A7; 1D6F9 03A8; 1D6FA 03A9;
  1D6FB 2207; 1D6FC 03B1; 1D6FD 03B2; 1D6FE 03B3; 1D6FF 03B4; 1D700 03B5; 1D701 03B6; 1D702 03B7;
  1D703 03B8; 1D704 03B9; 1D705 03BA; 1D706 03BB; 1D707 03BC; 1D708 03BD; 1D709 03BE; 1D70A 03BF;
  1D70B 03C0; 1D70C 03C1; 1D70D 03C2; 1D70E 03C3; 1D70F 03C4; 1D710 03C5; 1D711 03C6; 1D712 03C7;
  1D713 03C8; 1D714 03C9; 1D715 2202; 1D716 03F5; 1D717 03D1; 1D718 03F0; 1D719 03D5; 1D71A 03F1;
  1D71B 03D6; 1D71C 0391; 1D71D 0392; 1D71E 0393; 1D71F 0394; 1D720 0395; 1D721 0396; 1D722 0397;
  1D723 0398; 1D724 0399; 1D725 039A; 1D726 039B; 1D727 039C; 1D728 039D; 1D729 039E; 1D72A 039F;
  1D72B 03A0; 1D72C 03A1; 1D72D 03F4; 1D72E 03A3; 1D72F 03A4; 1D730 03A5; 1D731 03A6; 1D732 03A7;
  1D733 03A8; 1D734 03A9; 1D735 2207; 1D736 03B1; 1D737 03B2; 1D738 03B3; 1D739 03B4; 1D73A 03B5;
  1D73B 03B6; 1D73C 03B7; 1D73D 03B8; 1D73E 03B9; 1D73F 03BA; 1D740 03BB; 1D741 03BC; 1D742 03BD;
  1D743 03BE; 1D744 03BF; 1D745 03C0; 1D746 03C1; 1D747 03C2; 1D748 03C3; 1D749 03C4; 1D74A 03C5;
  1D74B 03C6; 1D74C 03C7; 1D74D 03C8; 1D74E 03C9; 1D74F 2202; 1D750 03F5; 1D751 03D1; 1D752 03F0;
  1D753 03D5; 1D754 03F1; 1D755 03D6; 1D756 0391; 1D757 0392; 1D758 0393; 1D759 0394; 1D75A 0395;
  1D75B 0396; 1D75C 0397; 1D75D 0398; 1D75E 0399; 1D75F 039A; 1D760 039B; 1D761 039C; 1D762 039D;
  1D763 039E; 1D764 039F; 1D765 03A0; 1D766 03A1; 1D767 03F4; 1D768 03A3; 1D769 03A4; 1D76A 03A5;
  1D76B 03A6; 1D76C 03A7; 1D76D 03A8; 1D76E 03A9; 1D76F 2207; 1D770 03B1; 1D771 03B2; 1D772 03B3;
  1D773 03B4; 1D774 03B5; 1D775 03B6; 1D776 03B7; 1D777 03B8; 1D778 03B9; 1D779 03BA; 1D77A 03BB;
  1D77B 03BC; 1D77C 03BD; 1D77D 03BE; 1D77E 03BF; 1D77F 03C0; 1D780 03C1; 1D781 03C2; 1D782 03C3;
  1D783 03C4; 1D784 03C5; 1D785 03C6; 1D786 03C7; 1D787 03C8; 1D788 03C9; 1D789 2202; 1D78A 03F5;
  1D78B 03D1; 1D78C 03F0; 1D78D 03D5; 1D78E 03F1; 1D78F 03D6; 1D790 0391; 1D791 0392; 1D792 0393;
  1D793 0394; 1D794 0395; 1D795 0396; 1D796 0397; 1D797 0398; 1D798 0399; 1D799 039A; 1D79A 039B;
  1D79B 039C; 1D79C 039D; 1D79D 039E; 1D79E 039F; 1D79F 03A0; 1D7A0 03A1; 1D7A1 03F4; 1D7A2 03A3;
  1D7A3 03A4; 1D7A4 03A5; 1D7A5 03A6; 1D7A6 03A7; 1D7A7 03A8; 1D7A8 03A9; 1D7A9 2207; 1D7AA 03B1;
  1D7AB 03B2; 1D7AC 03B3; 1D7AD 03B4; 1D7AE 03B5; 1D7AF 03B6; 1D7B0 03B7; 1D7B1 03B8; 1D7B2 03B9;
  1D7B3 03BA; 1D7B4 03BB; 1D7B5 03BC; 1D7B6 03BD; 1D7B7 03BE; 1D7B8 03BF; 1D7B9 03C0; 1D7BA 03C1;
  1D7BB 03C2; 1D7BC 03C3; 1D7BD 03C4; 1D7BE 03C5; 1D7BF 03C6; 1D7C0 03C7; 1D7C1 03C8; 1D7C2 03C9;
  1D7C3 2202; 1D7C4 03F5; 1D7C5 03D1; 1D7C6 03F0; 1D7C7 03D5; 1D7C8 03F1; 1D7C9 03D6; 1D7CA 03DC;
  1D7CB 03DD; 1D7CE 0030; 1D7CF 0031; 1D7D0 0032; 1D7D1 0033; 1D7D2 0034; 1D7D3 0035; 1D7D4 0036;
  1D7D5 0037; 1D7D6 0038; 1D7D7 0039; 1D7D8 0030; 1D7D9 0031; 1D7DA 0032; 1D7DB 0033; 1D7DC 0034;
  1D7DD 0035; 1D7DE 0036; 1D7DF 0037; 1D7E0 0038; 1D7E1 0039; 1D7E2 0030; 1D7E3 0031; 1D7E4 0032;
  1D7E5 0033; 1D7E6 0034; 1D7E7 0035; 1D7E8 0036; 1D7E9 0037; 1D7EA 0038; 1D7EB 0039; 1D7EC 0030;
  1D7ED 0031; 1D7EE 0032; 1D7EF 0033; 1D7F0 0034; 1D7F1 0035; 1D7F2 0036; 1D7F3 0037; 1D7F4 0038;
  1D7F5 0039; 1D7F6 0030; 1D7F7 0031; 1D7F8 0032; 1D7F9 0033; 1D7FA 0034; 1D7FB 0035; 1D7FC 0036;
  1D7FD 0037; 1D7FE 0038; 1D7FF 0039; 1EE00 0627; 1EE01 0628; 1EE02 062C; 1EE03 062F; 1EE05 0648;
  1EE06 0632; 1EE07 062D; 1EE08 0637; 1EE09 064A; 1EE0A 0643; 1EE0B 0644; 1EE0C 0645; 1EE0D 0646;
  1EE0E 0633; 1EE0F 0639; 1EE10 0641; 1EE11 0635; 1EE12 0642; 1EE13 0631; 1EE14 0634; 1EE15 062A;
  1EE16 062B; 1EE17 062E; 1EE18 0630; 1EE19 0636; 1EE1A 0638; 1EE1B 063A; 1EE1C 066E; 1EE1D 06BA;
  1EE1E 06A1; 1EE1F 066F; 1EE21 0628; 1EE22 062C; 1EE24 0647; 1EE27 062D; 1EE29 064A; 1EE2A 0643;
  1EE2B 0644; 1EE2C 0645; 1EE2D 0646; 1EE2E 0633; 1EE2F 0639; 1EE30 0641; 1EE31 0635; 1EE32 0642;
  1EE34 0634; 1EE35 062A; 1EE36 062B; 1EE37 062E; 1EE39 0636; 1EE3B 063A; 1EE42 062C; 1EE47 062D;
  1EE49 064A; 1EE4B 0644; 1EE4D 0646; 1EE4E 0633; 1EE4F 0639; 1EE51 0635; 1EE52 0642; 1EE54 0634;
  1EE57 062E; 1EE59 0636; 1EE5B 063A; 1EE5D 06BA; 1EE5F 066F; 1EE61 0628; 1EE62 062C; 1EE64 0647;
  1EE67 062D; 1EE68 0637; 1EE69 064A; 1EE6A 0643; 1EE6C 0645; 1EE6D 0646; 1EE6E 0633; 1EE6F 0639;
  1EE70 0641; 1EE71 0635; 1EE72 0642; 1EE74 0634; 1EE75 062A; 1EE76 062B; 1EE77 062E; 1EE79 0636;
  1EE7A 0638; 1EE7B 063A; 1EE7C 066E; 1EE7E 06A1; 1EE80 0627; 1EE81 0628; 1EE82 062C; 1EE83 062F;
  1EE84 0647; 1EE85 0648; 1EE86 0632; 1EE87 062D; 1EE88 0637; 1EE89 064A; 1EE8B 0644; 1EE8C 0645;
  1EE8D 0646; 1EE8E 0633; 1EE8F 0639; 1EE90 0641; 1EE91 0635; 1EE92 0642; 1EE93 0631; 1EE94 0634;
  1EE95 062A; 1EE96 062B; 1EE97 062E; 1EE98 0630; 1EE99 0636; 1EE9A 0638; 1EE9B 063A; 1EEA1 0628;
  1EEA2 062C; 1EEA3 062F; 1EEA5 0648; 1EEA6 0632; 1EEA7 062D; 1EEA8 0637; 1EEA9 064A; 1EEAB 0644;
  1EEAC 0645; 1EEAD 0646; 1EEAE 0633; 1EEAF 0639; 1EEB0 0641; 1EEB1 0635; 1EEB2 0642; 1EEB3 0631;
  1EEB4 0634; 1EEB5 062A; 1EEB6 062B; 1EEB7 062E; 1EEB8 0630; 1EEB9 0636; 1EEBA 0638; 1EEBB 063A;
  1FBF0 0030; 1FBF1 0031; 1FBF2 0032; 1FBF3 0033; 1FBF4 0034; 1FBF5 0035; 1FBF6 0036; 1FBF7 0037;
  1FBF8 0038; 1FBF9 0039"

end UniText.CharacterData
